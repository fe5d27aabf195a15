import GormModels.Text.Blank
import GormModels.Text.Case

/-!
Tokens of SQL text. A token keeps the characters it was read from and the characters skipped before
it, so the tokens of a text, taken together, hold all of the text up to what follows the last one.
-/

namespace GormModels.Sql

inductive TokenKind
  | word
  /-- A word that names a variable, whatever it reads as. -/
  | variable
  | quotedName
  | string
  | nationalString
  | number
  | bits
  | hex
  | symbol
  deriving DecidableEq, Repr

/-- `text` is what the token denotes: the content of a quoted token, the words of a key phrase in upper
case and parted by single spaces, and the source itself of any other token. -/
structure Token where
  kind : TokenKind
  text : String
  skipped : List Char
  source : List Char
  comments : List String := []
  deriving DecidableEq, Repr

namespace Token

def isWord (t : Token) (word : String) : Bool :=
  t.kind == .word && Text.upperText t.text == word

def isSymbol (t : Token) (symbol : String) : Bool :=
  t.kind == .symbol && t.text == symbol

def isSemicolon (t : Token) : Bool := t.isSymbol ";"

/-- The text that the tokens were read from, less what follows the last one. -/
def read (tokens : List Token) : List Char :=
  tokens.flatMap fun t => t.skipped ++ t.source

/-- The source of a run of tokens, from the first character of the first to the last of the last. -/
def span : List Token → List Char
  | [] => []
  | t :: rest => t.source ++ read rest

end Token

/-- Lines and columns count from one; a column is that of the character last read. -/
structure Position where
  line : Nat
  column : Nat
  deriving DecidableEq, Repr

/-- A token with the number of characters before it and the position of its last character. -/
structure PlacedToken where
  token : Token
  start : Nat
  position : Position
  deriving DecidableEq, Repr

/-- Splits a list at the members that end a part; empty parts are dropped. -/
def splitParts {α : Type} (ends : α → Bool) : List α → List α → List (List α)
  | part, [] => if part.isEmpty then [] else [part.reverse]
  | part, a :: rest =>
    if ends a then
      if part.isEmpty then splitParts ends [] rest else part.reverse :: splitParts ends [] rest
    else splitParts ends (a :: part) rest

/-- The first token of a statement: what is skipped before it belongs to no statement. -/
def Token.leading (t : Token) : Token := { t with skipped := [] }

def PlacedToken.leading (t : PlacedToken) : PlacedToken := { t with token := t.token.leading }

def statementsOf (tokens : List PlacedToken) : List (List PlacedToken) :=
  (splitParts (·.token.isSemicolon) [] tokens).map (·.modifyHead PlacedToken.leading)

end GormModels.Sql
