import GormModels.Compile
import GormModels.Proofs.Options
import GormModels.Proofs.Options.Entries

/-!
# What is asked for

A text with a choice of options, as both interfaces take it, and what comes of it: Go source, a report, or a
failure without a report.
-/

namespace GormModels

/-- A text to translate, with a value for each option that is set. Flags are set to be on. -/
structure Choice where
  sql : String
  filled : sql ≠ ""
  charset : Option String := none
  collation : Option String := none
  json : Bool := false
  tablePrefixes : Option String := none
  columnPrefixes : Option String := none
  noNull : Bool := false
  nullStyle : Option String := none
  package : Option String := none
  withType : Bool := false
  withTableName : Bool := false

namespace Choice

def flagValue (on : Bool) : Option Value := if on then some (.bool true) else none

/-- The options in the order in which they are set, with their values. -/
def table (c : Choice) : List (String × Option Value) := [
  ("charset", c.charset.map .text), ("collation", c.collation.map .text), ("json_tag", flagValue c.json),
  ("table_prefix", c.tablePrefixes.map .text), ("column_prefix", c.columnPrefixes.map .text),
  ("no_null_type", flagValue c.noNull), ("null_style", c.nullStyle.map .text), ("package", c.package.map .text),
  ("with_type", flagValue c.withType), ("force_table_name", flagValue c.withTableName)]

def entries (c : Choice) : List (String × Value) := Options.present c.table

theorem nodup_table (c : Choice) : (c.table.map Prod.fst).Nodup := by
  change Options.names.Nodup
  decide

theorem known_entries [Validator] (c : Choice) : Options.Known c.entries :=
  fun entry (hentry : entry ∈ Options.present c.table) => Options.fst_mem_of_mem_present hentry

end Choice

/-- What a user is told. -/
inductive Told
  | source (code : String)
  | failure (report : Report)
  | nothing (e : CompileError)

def Told.ofCompiled : Except CompileError String → Told
  | .ok code => .source code
  | .error e => e.report?.elim (.nothing e) .failure

/-- What a choice comes to. -/
def Choice.told [Sql.Dialect] [Naming.Inflection] [Validator] (c : Choice) : Told :=
  match Options.ofEntries c.entries with
  | .error e => .failure e.report
  | .ok options => .ofCompiled (compile options c.sql)

end GormModels
