import GormModels.Declaration

/-!
Schemas: tables whose columns have their nullability, character set and key membership worked out.
-/

namespace GormModels

structure Column where
  name : String
  typeName : String
  typeText : String := ""
  nullable : Bool := false
  unsigned : Bool := false
  length : Option Int := none
  precision : Option Int := none
  scale : Option Int := none
  default : Option String := none
  autoIncrement : Bool := false
  comment : Option String := none
  isPrimaryKey : Bool := false
  isUnique : Bool := false
  charset : Option String := none
  collation : Option String := none
  deriving DecidableEq, Repr

structure Table where
  name : String
  columns : List Column := []
  comment : Option String := none
  engine : Option String := none
  charset : Option String := none
  collation : Option String := none
  primaryKey : List String := []
  uniqueKeys : List Key := []
  indexes : List Key := []
  foreignKeys : List Key := []
  deriving DecidableEq, Repr

/-- The column of a name. -/
def Table.column? (t : Table) (name : String) : Option Column :=
  t.columns.find? (·.name == name)

end GormModels
