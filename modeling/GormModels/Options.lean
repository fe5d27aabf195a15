/-!
The options that steer what Go source is written.
-/

namespace GormModels

/-- How a nullable column is kept in a struct: by the default of its type, by a wrapper of `database/sql`,
or by a pointer. -/
inductive NullStyle
  | byType
  | wrapped
  | pointer
  deriving DecidableEq, Repr

structure Options where
  /-- The character set of every table and column, in place of the declared ones. -/
  charset : Option String := none
  collation : Option String := none
  jsonTag : Bool := false
  /-- Prefixes, parted by commas, that table names lose. -/
  tablePrefixes : String := ""
  columnPrefixes : String := ""
  /-- Nullable columns are kept like the others. -/
  noNullType : Bool := false
  nullStyle : NullStyle := .byType
  package : String := "model"
  /-- Tags name the SQL type. -/
  withType : Bool := false
  /-- Every struct names its table. -/
  forceTableName : Bool := false
  deriving DecidableEq, Repr

end GormModels
