/-!
What the CREATE TABLE statements of a text declare, as written: tables with columns and keys.
-/

namespace GormModels

/-- A key of a table. A foreign key also names the table and columns it refers to. -/
structure Key where
  name : Option String := none
  columns : List String := []
  referencedTable : Option String := none
  referencedColumns : List String := []
  deriving DecidableEq, Repr

structure ColumnDeclaration where
  name : String
  typeName : String
  typeText : String := ""
  typeParams : List String := []
  notNull : Bool := false
  explicitNull : Bool := false
  default : Option String := none
  defaultIsNull : Bool := false
  autoIncrement : Bool := false
  comment : Option String := none
  charset : Option String := none
  collation : Option String := none
  deriving DecidableEq, Repr

structure TableDeclaration where
  name : String
  columns : List ColumnDeclaration := []
  primaryKey : List String := []
  uniqueKeys : List Key := []
  indexes : List Key := []
  foreignKeys : List Key := []
  comment : Option String := none
  engine : Option String := none
  charset : Option String := none
  collation : Option String := none
  deriving DecidableEq, Repr

end GormModels
