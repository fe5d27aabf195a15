import GormModels.Text.Case

/-!
Statements as a parser gives them. Of each node everything is kept that declarations of tables are made from: its
kind, its name, its text in SQL and the nodes below it.
-/

namespace GormModels.Sql

/-- The kinds of expressions that are told apart. -/
inductive NodeKind
  | identifier
  | literal
  | variable
  | table
  | null
  | other
  deriving DecidableEq, Repr

/-- An expression. The `identifier` is the first one in it, the expression itself included. -/
structure Node where
  kind : NodeKind := .other
  name : String := ""
  sql : String := ""
  identifier : Option String := none
  deriving DecidableEq, Repr

namespace Node

/-- The plain text of an identifier, a literal, a variable or a table, and the SQL text of anything else. -/
def text (n : Node) : String :=
  match n.kind with
  | .identifier | .literal | .variable | .table => n.name
  | .null | .other => n.sql

/-- The name of an identifier, or of the first one in an expression that has any. -/
def identifierName (n : Node) : String :=
  if n.kind == .identifier then n.name else n.identifier.getD n.name

def isNull (n : Node) : Bool := n.kind == .null

/-- The text of a value: that of a literal is its content. -/
def valueText (n : Node) : String := if n.kind == .literal then n.name else n.sql

end Node

/-- What a type goes by: a name of the dialect, a word that the dialect does not know, or no name at all. -/
inductive TypeHead
  | known (name : String)
  | userDefined (word : String)
  | nameless
  deriving DecidableEq, Repr

/-- A type with the SQL text of each parameter. It is marked `unsigned` where the dialect has no type of its own for
the unsigned form. -/
structure DataType where
  head : TypeHead
  sql : String := ""
  unsigned : Bool := false
  params : List String := []
  deriving DecidableEq, Repr

namespace DataType

/-- The name that a type goes by in schemas: one that is marked as unsigned has a U before it. -/
def name? (t : DataType) : Option String :=
  match t.head with
  | .known name => some (if t.unsigned then "U" ++ Text.upperText name else Text.upperText name)
  | .userDefined word => some (Text.upperText word)
  | .nameless => none

def text (t : DataType) : String := if t.unsigned then t.sql ++ " UNSIGNED" else t.sql

end DataType

/-- What a column is bound by. -/
inductive Constraint
  | notNull
  | null
  | default (value : Node)
  | autoIncrement
  | comment (text : Node)
  | primaryKey
  | unique
  | characterSet (name : Node)
  | collation (name : Node)
  | other
  deriving DecidableEq, Repr

/-- A column, which has no type where none is written. -/
structure ColumnDefinition where
  name : String
  type : Option DataType
  constraints : List Constraint := []
  sql : String := ""
  deriving DecidableEq, Repr

/-- What a foreign key refers to. -/
structure Reference where
  table : Option Node
  columns : List Node := []
  deriving DecidableEq, Repr

/-- What a table is bound by. -/
inductive TableConstraint
  | primaryKey (columns : List Node)
  | unique (name : Option Node) (columns : List Node)
  | index (kind : String) (name : Option Node) (columns : List Node)
  | foreignKey (columns : List Node) (reference : Option Reference)
  | other
  deriving DecidableEq, Repr

/-- One item in the parentheses of a table: a column, or constraints behind a label if there is one. -/
inductive TableItem
  | column (definition : ColumnDefinition)
  | constraints (label : Option Node) (constraints : List TableConstraint)
  deriving DecidableEq, Repr

inductive TableOption
  | engine (value : Node)
  | characterSet (value : Node)
  | collation (value : Node)
  | comment (value : Node)
  | other
  deriving DecidableEq, Repr

structure TableDefinition where
  name : String
  items : List TableItem := []
  options : List TableOption := []
  deriving DecidableEq, Repr

/-- A statement: one that creates something, of which a table has a definition, a command whose grammar is not known,
kept as its verb and the text behind it, or anything else. -/
inductive Statement
  | create (kind : String) (definition : TableDefinition)
  | command (verb body sql : String)
  | other
  deriving DecidableEq, Repr

end GormModels.Sql
