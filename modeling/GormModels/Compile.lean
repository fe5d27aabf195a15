import GormModels.Go.Source
import GormModels.Schema.Build
import GormModels.Sql.Script

/-!
From SQL text to Go source: declarations, schemas, structs, text. The first failure ends it, and no part of
the source is given out before the whole is made.
-/

namespace GormModels

inductive CompileError
  | sql (error : Sql.SqlError)
  | schema (error : SchemaError)
  | struct (error : Go.StructError)
  /-- A type parameter that cannot be read as a number; no report covers it. -/
  | numeral (error : BadNumeral)
  deriving DecidableEq, Repr

namespace CompileError

def ofBuild : BuildError → CompileError
  | .invalid e => schema e
  | .numeral e => numeral e

def report? : CompileError → Option Report
  | sql e => e.report?
  | schema e => some e.report
  | struct e => some e.report
  | numeral _ => none

end CompileError

section

variable [Sql.Dialect] [Naming.Inflection]

/-- The schemas of all tables in a text, of which there must be one at least. -/
def readTables (options : Options) (sql : String) : Except CompileError (List Table) := do
  let declarations ← (Sql.parseTables sql).mapError .sql
  if declarations.isEmpty then throw (.schema .noTables)
  (buildTables options declarations).mapError .ofBuild

def readStructs (options : Options) (sql : String) : Except CompileError (List Go.Struct) := do
  let tables ← readTables options sql
  (Go.structsOf options tables).mapError .struct

def compile (options : Options) (sql : String) : Except CompileError String := do
  let structs ← readStructs options sql
  return Go.source options.package structs

/-- Compiles a text and adds the source to what was written before; a failure adds nothing. -/
def compileOnto (options : Options) (written : String) (sql : String) :
    Except CompileError (String × String) := do
  let source ← compile options sql
  return (source, written ++ source)

end

end GormModels
