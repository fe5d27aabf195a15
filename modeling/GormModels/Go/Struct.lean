import GormModels.Go.Tag
import GormModels.Go.Type
import GormModels.Naming
import GormModels.Naming.Inflection

/-!
Structs for tables, ready to be written: one field for each column, in the order of the columns.
-/

namespace GormModels.Go

structure Field where
  name : String
  type : String
  tag : String
  column : String
  jsonName : Option String := none
  comment : Option String := none
  deriving DecidableEq, Repr

structure Struct where
  name : String
  fields : List Field
  table : String
  package : String
  comment : Option String := none
  /-- The struct tells the name of its table. -/
  namesTable : Bool := false
  /-- The packages that the types of its fields need, sorted and each once. -/
  imports : List String := []
  deriving DecidableEq, Repr

/-- Texts in order, each once. -/
def sortedSet (texts : List String) : List String :=
  texts.eraseDups.mergeSort fun a b => decide (a ≤ b)

inductive StructError
  | naming (error : Naming.NamingError)
  | type (error : UnsupportedType)
  deriving DecidableEq, Repr

def StructError.report : StructError → Report
  | naming e => e.report
  | type e => e.report

/-- The field of a column, with the packages its type needs. -/
def fieldOf (options : Options) (table : String) (c : Column) (name : String) :
    Except UnsupportedType (Field × List String) := do
  let type ← resolveType options c (some table)
  let jsonName := if options.jsonTag then some (Naming.jsonName c.name options.columnPrefixes) else none
  return (
    { name
      type := type.text
      tag := fieldTag options c jsonName
      column := c.name
      jsonName
      comment := c.comment },
    type.imports)

section

variable [Naming.Inflection]

/-- Whether a struct has to tell its table's name, which its own name does not suggest. -/
def needsTableName (options : Options) (structName table : String) : Bool :=
  options.forceTableName || (Naming.conventionalTable structName).toOption != some table

def structOf (options : Options) (t : Table) (name : String) : Except StructError Struct := do
  let columns := t.columns.map (·.name)
  let fieldNames ← (Naming.fieldNames t.name columns options.columnPrefixes).mapError .naming
  let fields ← ((t.columns.zip fieldNames).mapM fun (c, fieldName) =>
    fieldOf options t.name c fieldName).mapError .type
  let namesTable := needsTableName options name t.name
  match (fields.map (·.1)).find? (·.name == Naming.tableNameMethod) with
  | some field =>
    if namesTable then throw (.naming (.method t.name field.column))
  | none => pure ()
  return {
    name
    fields := fields.map (·.1)
    table := t.name
    package := options.package
    comment := t.comment
    namesTable
    imports := sortedSet (fields.flatMap (·.2)) }

def structsOf (options : Options) (tables : List Table) : Except StructError (List Struct) := do
  let names ← (Naming.structNames (tables.map (·.name)) options.tablePrefixes).mapError .naming
  (tables.zip names).mapM fun (t, name) => structOf options t name

end

end GormModels.Go
