import GormModels.Sql.Mysql.DataType

/-!
The parts of a CREATE TABLE statement as written: columns and keys with their constraints, and the options of
the table.
-/

namespace GormModels.Sql.Mysql

/-- What a foreign key refers to. -/
structure Reference where
  table : List Name
  columns : List Expr
  options : List String

/-- A list of columns in parentheses. -/
def renderColumns (columns : List String) : String :=
  "(" ++ ", ".intercalate columns ++ ")"

/-- Words behind a text, parted from it by a blank each. -/
def renderBehind (text : String) (words : List String) : String :=
  " ".intercalate (text :: words.filter (· != ""))

def Reference.render (r : Reference) : String :=
  renderBehind ("REFERENCES " ++ ".".intercalate (r.table.map Name.render))
    ((if r.columns.isEmpty then "" else renderColumns (r.columns.map Expr.render)) :: r.options)

/-- What a column or a table is bound by. A `key` is the primary key of the column that it stands at, while a
`primaryKey` names its columns. -/
inductive Constraint
  | notNull
  | null
  | default (value : Expr)
  | autoIncrement
  | comment (text : String)
  | characterSet (name written : String)
  | collation (name written : String)
  | key (details : List String)
  | primaryKey (columns : List Name) (details : List String)
  | unique (name : Option Name) (columns : Option (List Expr))
  | index (kind : String) (name : Option Name) (columns : List Expr)
  | foreignKey (columns : List Name) (target : Option Reference)
  | other (text : String)

def Constraint.render : Constraint → String
  | notNull => "NOT NULL"
  | null => "NULL"
  | default value => "DEFAULT " ++ value.render
  | autoIncrement => "AUTO_INCREMENT"
  | comment text => "COMMENT " ++ quoteString text
  | characterSet _ written => "CHARACTER SET " ++ written
  | collation _ written => "COLLATE " ++ written
  | key details => renderBehind "PRIMARY KEY" details
  | primaryKey columns details =>
    renderBehind "PRIMARY KEY" (renderColumns (columns.map Name.render) :: details)
  | unique name columns =>
    renderBehind "UNIQUE"
      ((name.map Name.render).toList ++ (columns.map fun es => renderColumns (es.map Expr.render)).toList)
  | index kind name columns =>
    renderBehind (if kind == "" then "INDEX" else kind ++ " INDEX")
      ((name.map Name.render).toList ++ [renderColumns (columns.map Expr.render)])
  | foreignKey columns target =>
    renderBehind "FOREIGN KEY"
      ((if columns.isEmpty then "" else renderColumns (columns.map Name.render)) ::
        (target.map Reference.render).toList)
  | other text => text

/-- A constraint of a column with the name that it was given and the comments behind it. -/
structure ColumnConstraint where
  label : Option Name := none
  constraint : Constraint
  comments : List String := []

def ColumnConstraint.render (c : ColumnConstraint) : String :=
  let text := withComments c.constraint.render (c.comments.filter (· != ""))
  match c.label with
  | some label => "CONSTRAINT " ++ label.render ++ " " ++ text
  | none => text

structure ColumnDefinition where
  name : Expr
  type : Option DataType
  constraints : List ColumnConstraint
  comments : List String := []

def ColumnDefinition.render (c : ColumnDefinition) : String :=
  withComments
    (renderBehind c.name.render
      ((c.type.map DataType.render).toList ++ c.constraints.map ColumnConstraint.render))
    (c.comments.filter (· != ""))

/-- One item in the parentheses of a table. -/
inductive TableItem
  | column (definition : ColumnDefinition)
  | constraint (label : Option String) (constraint : Constraint)

/-- An item with the comments behind it; those of a constraint are not kept. -/
def TableItem.noted : TableItem → List String → TableItem
  | column c, comments => column { c with comments := c.comments ++ comments }
  | item, _ => item

inductive TableOption
  | engine (name : String)
  | characterSet (name : String)
  | collation (name : String)
  | comment (text : String)
  | other

structure TableDefinition where
  name : String
  items : List TableItem
  options : List TableOption

end GormModels.Sql.Mysql
