import GormModels.Sql.Mysql.Expr
import GormModels.Sql.Token
import GormModels.Sql.Mysql.Token.Keyword

/-!
Reading a grammar off a list of tokens. A reading takes tokens from the front and may fail at the tokens
that are left; the primitive readings take one token or none.
-/

namespace GormModels.Sql.Mysql

/-- Why a statement does not follow the grammar. -/
inductive Problem
  | closeExpected
  | openExpected
  | unexpectedToken
  | notUnsigned (type : String)
  | keyActionExpected
  | expressionExpected
  | nameExpected
  | bracketExpected
  | eventExpected
  | endExpected
  | asExpected
  | typeExpected
  | sourceExpected
  | tooManyArguments (given limit : Nat)
  /-- No interval is added to a date; this one has no place of its own. -/
  | intervalExpected (found : String)
  /-- A quoted type name whose text cannot be read as tokens from a place on. -/
  | unreadableType (name : String) (place : Nat)
  /-- The word DEFAULT before a table option that has none; no report covers it. -/
  | optionWithoutDefault
  | unqualifiedOption (word : String)
  /-- Queries before a statement that is kept as a command. -/
  | commandBehindQueries
  deriving DecidableEq, Repr

def Problem.message : Problem → String
  | closeExpected => "Expecting )"
  | openExpected => "Expecting ("
  | unexpectedToken => "Invalid expression / Unexpected token"
  | notUnsigned type => "Cannot convert " ++ type ++ " to unsigned."
  | keyActionExpected => "Invalid key constraint"
  | expressionExpected => "Expecting an expression"
  | nameExpected => "Expecting a name"
  | bracketExpected => "Expecting >"
  | eventExpected => "Expected DELETE or UPDATE"
  | endExpected => "Expected END after CASE"
  | asExpected => "Expected AS after CAST"
  | typeExpected => "Expected TYPE after CAST"
  | sourceExpected => "Expected FROM or comma after EXTRACT"
  | tooManyArguments given limit =>
    "The number of provided arguments (" ++ toString given ++
      ") is greater than the maximum number of supported arguments (" ++ toString limit ++ ")"
  | intervalExpected found => "INTERVAL expression expected but got '" ++ found ++ "'"
  | unreadableType name _ => "Expecting a type instead of " ++ name
  | optionWithoutDefault => "Expecting an option with a default"
  | unqualifiedOption word => "Cannot parse property '" ++ word ++ "'"
  | commandBehindQueries => "command does not support CTE"

/-- A problem met when `left` tokens were still to be read. -/
structure Fault where
  problem : Problem
  left : Nat
  deriving DecidableEq, Repr

abbrev Reading := StateT (List Token) (Except Fault)

namespace Reading

def fail {α : Type} (problem : Problem) : Reading α :=
  fun tokens => .error ⟨problem, tokens.length⟩

/-- Fails at the token that was taken last. -/
def failAtLast {α : Type} (problem : Problem) : Reading α :=
  fun tokens => .error ⟨problem, tokens.length + 1⟩

def peek : Reading (Option Token) := do
  return (← get).head?

/-- Takes the next token if it passes the test. -/
def takeIf (test : Token → Bool) : Reading (Option Token) := do
  match ← get with
  | t :: rest =>
    if test t then
      set rest
      return some t
    else return none
  | [] => return none

def symbol (s : String) : Reading Bool := do
  return (← takeIf (·.isSymbol s)).isSome

def equalsSign : Reading Bool := do
  return (← takeIf fun t => t.isSymbol "=" || t.isSymbol "==").isSome

def word (s : String) : Reading Bool := do
  return (← takeIf (·.isWord s)).isSome

/-- Takes a run of words, or nothing when they do not all follow. -/
def words (ws : List String) : Reading Bool := do
  let tokens ← get
  if ws.length ≤ tokens.length ∧ (tokens.zip ws).all (fun (t, w) => t.isWord w) then
    set (tokens.drop ws.length)
    return true
  else return false

def oneOf (ws : List String) : Reading (Option String) := do
  let t ← takeIf fun t => ws.any t.isWord
  return t.bind fun t => ws.find? t.isWord

/-- Whether the next token is a symbol; it is not taken. -/
def atSymbol (s : String) : Reading Bool := do
  return (← peek).any (·.isSymbol s)

/-- Whether the next token is a word; it is not taken. -/
def atWord (w : String) : Reading Bool := do
  return (← peek).any (·.isWord w)

def openParen : Reading Unit := do
  unless ← symbol "(" do fail .openExpected

def closeParen : Reading Unit := do
  unless ← symbol ")" do fail .closeExpected

/-- Takes a closing parenthesis, of which its comments are left. -/
def closing : Reading (List String) := do
  match ← takeIf (·.isSymbol ")") with
  | some t => return t.comments
  | none => fail .closeExpected

/-- What a reading finds in parentheses. -/
def wrapped {α : Type} (r : Reading α) : Reading α := do
  openParen
  let a ← r
  closeParen
  return a

/-- Items parted by commas; an item may be missing. At most `n` commas are taken, and `note` adds the comments
of each to the item before it. -/
def commaSeparated {α : Type} (note : α → List String → α) (item : Reading (Option α)) (n : Nat) :
    Reading (List α) := do
  let first ← item
  match n with
  | 0 => return first.toList
  | n + 1 =>
    match ← takeIf (·.isSymbol ",") with
    | some comma =>
      return (first.map (note · comma.comments)).toList ++ (← commaSeparated note item n)
    | none => return first.toList

/-- Items parted by commas to their end: each comma is a token, so the tokens bound their number. -/
def commaList {α : Type} (item : Reading (Option α)) : Reading (List α) := do
  commaSeparated (fun a _ => a) item (← get).length

/-- Items one after another, at most `n`. -/
def repeated {α : Type} (item : Reading (Option α)) : Nat → Reading (List α)
  | 0 => return []
  | n + 1 => do
    match ← item with
    | some a => return a :: (← repeated item n)
    | none => return []

def many {α : Type} (item : Reading (Option α)) : Reading (List α) := do
  repeated item ((← get).length + 1)

end Reading

end GormModels.Sql.Mysql

namespace GormModels.Sql.Token

open Mysql

/-- The word that a token reads as in a key phrase of the grammar: quotes do not matter, except those of a
string. -/
def keyText (t : Token) : String :=
  if t.kind == .string then "" else Text.upperText t.text

/-- Whether a token can stand as a name wherever any word would do. -/
def isAnyName (t : Token) : Bool :=
  match t.kind with
  | .symbol => t.text.length > 1 && t.text != "=="
  | .word => !(["SELECT", "NOT", "MOD"].any t.isWord)
  | _ => true

/-- Whether a token can stand as a name: quoted, or a word without a fixed role. -/
def isPlainName (t : Token) : Bool :=
  match t.kind with
  | .quotedName | .variable => true
  | .word => Text.upperText t.text ∉ reservedWords
  | _ => false

def toName (t : Token) : Name := ⟨t.text, t.kind == .quotedName || t.kind == .string⟩

end GormModels.Sql.Token

namespace GormModels.Sql.Mysql

namespace Reading

def anyName : Reading (Option Name) := do
  return (← takeIf Token.isAnyName).map Token.toName

def plainName : Reading (Option Name) := do
  return (← takeIf Token.isPlainName).map Token.toName

/-- A string, or any word. -/
def stringOrWord : Reading (Option String) := do
  return (← takeIf fun t => t.kind == .string || t.isAnyName).map Token.text

/-- Takes a word of the list, quoted or not. -/
def keyword (ws : List String) : Reading (Option String) := do
  return (← takeIf fun t => t.keyText ∈ ws).map Token.keyText

/-- Takes a run of words, quoted or not, or nothing when they do not all follow. -/
def keywords (ws : List String) : Reading Bool := do
  let tokens ← get
  if ws.length ≤ tokens.length ∧ (tokens.take ws.length).map Token.keyText = ws then
    set (tokens.drop ws.length)
    return true
  else return false

def string : Reading (Option String) := do
  return (← takeIf (·.kind == .string)).map Token.text

/-- The words IF EXISTS or IF NOT EXISTS, as far as they go. -/
def existence (negated : Bool) : Reading Unit := do
  if (← keyword ["IF"]).isSome then
    if !negated || (← word "NOT") then
      let _ ← word "EXISTS"

/-- Takes all tokens that are left. -/
def rest : Reading Unit := set ([] : List Token)

end Reading

end GormModels.Sql.Mysql
