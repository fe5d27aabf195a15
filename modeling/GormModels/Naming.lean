import GormModels.Naming.Affix
import GormModels.Naming.GoName
import GormModels.Naming.SnakeCase
import GormModels.Report

/-!
The names of structs, fields and JSON members. Names of structs and of the fields of a struct must differ.
-/

namespace GormModels.Naming

def structName (table beginnings : String) : String := goNameText (stripText table beginnings)

def fieldName (column beginnings : String) : String := goNameText (stripText column beginnings)

/-- The runs of letters and digits in a text. -/
def alphanumericRuns (s : List Char) : List (List Char) :=
  (s.splitBy fun a b => Text.isAlphanumeric a == Text.isAlphanumeric b).filter fun run =>
    run.head?.any Text.isAlphanumeric

/-- The name of a column's JSON member: its runs of letters and digits in snake case. -/
def jsonName (column beginnings : String) : String :=
  let stripped := stripBeginning column.toList beginnings
  match alphanumericRuns stripped with
  | [] => .ofList (snakeCase stripped)
  | runs => .ofList (['_'].intercalate (runs.map snakeCase))

/-- Two identifiers that make one name; the identifiers are columns of `table` if there is one. -/
structure Collision where
  name : String
  earlier : String
  later : String
  deriving DecidableEq, Repr

/-- The names that identifiers make, which must all differ. -/
def distinctNames (make : String → String) (seen : List (String × String)) :
    List String → Except Collision (List String)
  | [] => .ok []
  | identifier :: rest =>
    let name := make identifier
    match seen.lookup name with
    | some earlier => .error ⟨name, earlier, identifier⟩
    | none => (name :: ·) <$> distinctNames make ((name, identifier) :: seen) rest

inductive NamingError
  | columns (table : String) (collision : Collision)
  | tables (collision : Collision)
  /-- A field has the name of the method that tells the table's name. -/
  | method (table column : String)
  deriving DecidableEq, Repr

/-- The method that tells the name of a struct's table. -/
def tableNameMethod : String := "TableName"

namespace NamingError

def message : NamingError → String
  | columns table c =>
    "Columns '" ++ c.earlier ++ "' and '" ++ c.later ++ "' of table '" ++ table ++
      "' both map to field '" ++ c.name ++ "'"
  | tables c =>
    "Tables '" ++ c.earlier ++ "' and '" ++ c.later ++ "' both map to struct '" ++ c.name ++ "'"
  | method table column =>
    "Column '" ++ column ++ "' of table '" ++ table ++ "' maps to field '" ++ tableNameMethod ++
      "', which clashes with the " ++ tableNameMethod ++ "() method"

def report (e : NamingError) : Report :=
  match e with
  | columns table c => .namingCollision e.message (some c.name) [c.earlier, c.later] (some table)
  | tables c => .namingCollision e.message (some c.name) [c.earlier, c.later]
  | method table column =>
    .namingCollision e.message (some tableNameMethod) [column, tableNameMethod ++ "()"] (some table)
      { suggestions := some
          ["Rename the column", "Drop --with-tablename when GORM can infer the table name"] }

end NamingError

def fieldNames (table : String) (columns : List String) (beginnings : String) :
    Except NamingError (List String) :=
  (distinctNames (fieldName · beginnings) [] columns).mapError (.columns table)

def structNames (tables : List String) (beginnings : String) : Except NamingError (List String) :=
  (distinctNames (structName · beginnings) [] tables).mapError .tables

end GormModels.Naming
