import GormModels.Sql.Mysql.Token.Keyword
import GormModels.Text.Blank
import GormModels.Text.Case

/-!
SQL expressions and their canonical text: one blank around operators, upper-case functions and strings in
single quotes. Parentheses are kept as written; the text adds some around the amount of an interval only.
-/

namespace GormModels.Sql.Mysql

structure Name where
  text : String
  quoted : Bool
  deriving DecidableEq, Repr

/-- A `call` is of a function that the dialect does not know, a `builtin` of one that it does; the clauses
of a `caseOf` and the parts of a `phrase` are written one after another. Comments change nothing but the text. -/
inductive Expr
  | null
  | boolean (value : Bool)
  | string (text : String)
  | nationalString (text : String)
  | number (text : String)
  | bits (digits : String)
  | hex (digits : String)
  | star
  | word (text : String)
  | name (parts : List Name)
  | call (function : Name) (arguments : List Expr)
  | builtin (function : String) (arguments : List Expr)
  | unary (operator : String) (operand : Expr)
  | binary (operator : String) (left right : Expr)
  | member (owner part : Expr)
  | paren (inner : Expr)
  | tuple (items : List Expr)
  | cast (value : Expr) (type : String)
  | interval (amount : Expr) (unit : String)
  | caseOf (clauses : List Expr)
  | phrase (parts : List Expr)
  | named (value : Expr) (name : Name)
  | query (text : String)
  | commented (inner : Expr) (comments : List String)
  deriving Repr

/-- The backslash pairs that control characters are written as. -/
def escapeString (c : Char) : List Char :=
  match c with
  | '\x00' => ['\\', '0']
  | '\x1a' => ['\\', 'Z']
  | '\x07' => ['\\', 'a']
  | '\x08' => ['\\', 'b']
  | '\x0c' => ['\\', 'f']
  | '\n' => ['\\', 'n']
  | '\r' => ['\\', 'r']
  | '\t' => ['\\', 't']
  | '\x0b' => ['\\', 'v']
  | '\\' => ['\\', '\\']
  | '\'' => ['\'', '\'']
  | c => [c]

def quoteString (s : String) : String :=
  .ofList ('\'' :: s.toList.flatMap escapeString ++ ['\''])

def quoteName (s : String) : String :=
  .ofList ('\x60' :: s.toList.flatMap (fun c => if c == '\x60' then [c, c] else [c]) ++ ['\x60'])

/-- A name is written in backticks if it was quoted or is a reserved word. -/
def Name.render (n : Name) : String :=
  if n.quoted || Text.upperText n.text ∈ backtickedWords then quoteName n.text else n.text

/-- A function's name is written in upper case unless it is quoted. -/
def Name.renderFunction (n : Name) : String :=
  if n.quoted then quoteName n.text else Text.upperText n.text

/-- An operator made of letters is parted from its operand by a blank, and so are two signs. -/
def renderUnary (operator operand : String) : String :=
  if operator.toList.any Char.isAlpha || operand.toList.head? == some '-' && operator == "-" then
    operator ++ " " ++ operand
  else operator ++ operand

/-- A text with a blank between each pair of the two signs. -/
def partSigns (a b : Char) : List Char → List Char
  | c :: d :: rest =>
    if c == a && d == b then a :: ' ' :: b :: partSigns a b rest else c :: partSigns a b (d :: rest)
  | s => s

/-- A comment as it is written: between blanks, and without the signs of other comments. -/
def renderComment (text : String) : String :=
  let s := text.toList
  let s := if s.head?.any Text.isBlank then s else ' ' :: s
  let s := if s.getLast?.any Text.isBlank then s else s ++ [' ']
  .ofList (['/', '*'] ++ partSigns '/' '*' (partSigns '*' '/' s) ++ ['*', '/'])

/-- A text with comments behind it. -/
def withComments (text : String) (comments : List String) : String :=
  " ".intercalate (text :: comments.map renderComment)

namespace Expr

/-- An expression with the comments behind it that are not empty. -/
def noted (e : Expr) (comments : List String) : Expr :=
  let kept := comments.filter (· != "")
  if kept.isEmpty then e else commented e kept

/-- An expression without the comments behind it. -/
def plain : Expr → Expr
  | commented e _ => e.plain
  | e => e

/-- The comments behind an expression. -/
def comments : Expr → List String
  | commented e cs => e.comments ++ cs
  | _ => []

/-- Whether the amount of an interval is written without parentheses. -/
def isBareAmount : Expr → Bool
  | string _ | number _ | name _ | paren _ => true
  | unary operator _ => operator == "-"
  | commented e _ => e.isBareAmount
  | _ => false

mutual

def render : Expr → String
  | null => "NULL"
  | boolean true => "TRUE"
  | boolean false => "FALSE"
  | string s => quoteString s
  | nationalString s => "N" ++ quoteString s
  | number s => s
  | bits s => "b'" ++ s ++ "'"
  | hex s => "x'" ++ s ++ "'"
  | star => "*"
  | word s => s
  | name parts => ".".intercalate (parts.map Name.render)
  | call f arguments => f.renderFunction ++ "(" ++ ", ".intercalate (renderAll arguments) ++ ")"
  | builtin f arguments => f ++ "(" ++ ", ".intercalate (renderAll arguments) ++ ")"
  | unary operator e => renderUnary operator e.render
  | binary operator l r => l.render ++ " " ++ operator ++ " " ++ r.render
  | member owner part => owner.render ++ "." ++ part.render
  | paren e => "(" ++ e.render ++ ")"
  | tuple es => "(" ++ ", ".intercalate (renderAll es) ++ ")"
  | cast e type => "CAST(" ++ e.render ++ " AS " ++ type ++ ")"
  | interval amount unit =>
    "INTERVAL " ++ (if amount.isBareAmount then amount.render else "(" ++ amount.render ++ ")") ++
      (if unit == "" then "" else " " ++ unit)
  | caseOf clauses => "CASE " ++ " ".intercalate (renderAll clauses) ++ " END"
  | phrase parts => " ".intercalate (renderAll parts)
  | named e n => e.render ++ " AS " ++ n.render
  | query text => text
  | commented e cs => withComments e.render cs

def renderAll : List Expr → List String
  | [] => []
  | e :: es => e.render :: renderAll es

end

/-- The text of an expression where a word or a string is wanted: quotes are no part of it. -/
def bareText (e : Expr) : String :=
  match e.plain with
  | string s => s
  | number s => s
  | word s => s
  | name [n] => n.text
  | _ => e.render

mutual

/-- The names in an expression from left to right, each with its depth. -/
def namesAt (depth : Nat) : Expr → List (Nat × String)
  | name parts => (parts.reverse.take 1).map fun n => (depth + 1, n.text)
  | call f arguments =>
    (if f.quoted then [(depth + 1, f.text)] else []) ++ namesAtAll (depth + 1) arguments
  | builtin _ arguments => namesAtAll (depth + 1) arguments
  | unary _ e => namesAt (depth + 1) e
  | binary _ l r => namesAt (depth + 1) l ++ namesAt (depth + 1) r
  | member l r => namesAt (depth + 1) l ++ namesAt (depth + 1) r
  | paren e => namesAt (depth + 1) e
  | tuple es => namesAtAll (depth + 1) es
  | cast e _ => namesAt (depth + 1) e
  | interval e _ => namesAt (depth + 1) e
  | caseOf clauses => namesAtAll (depth + 1) clauses
  | phrase parts => namesAtAll depth parts
  | named e n => namesAt (depth + 1) e ++ [(depth + 1, n.text)]
  | commented e _ => namesAt depth e
  | _ => []

def namesAtAll (depth : Nat) : List Expr → List (Nat × String)
  | [] => []
  | e :: es => namesAt depth e ++ namesAtAll depth es

end

/-- An expression without the parentheses around it. -/
def unwrapped : Expr → Expr
  | paren e => e.unwrapped
  | commented (paren e) _ => e.unwrapped
  | e => e

/-- What an expression without a name is known by: its literal, the function it calls, or the literal that
a known function is called with. -/
def ownText : Expr → String
  | string s | number s | word s => s
  | null => "NULL"
  | star => "*"
  | call f _ => f.text
  | builtin _ (string s :: _) => s
  | builtin _ (number s :: _) => s
  | commented e _ => e.ownText
  | _ => ""

/-- What the expression at the head of a column's definition calls the column. -/
def columnName : Expr → String
  | name [n] => n.text
  | string s | number s | word s => s
  | null => "NULL"
  | star => "*"
  | commented e _ => e.columnName
  | _ => ""

end Expr

end GormModels.Sql.Mysql
