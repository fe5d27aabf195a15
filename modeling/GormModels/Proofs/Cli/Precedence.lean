import GormModels.Proofs.Cli.Run
import GormModels.Proofs.Options.Merge

/-!
# The command line before the configuration file

What the command line says of an option counts, whatever the configuration file says of it and even if that would be
refused; of the other options the file says what it would say alone.
-/

namespace GormModels.Cli

open Options

/-- The names of values on the command line and the options that they set, in the order in which they are set. -/
def optionFields : List (String × String) := [
  ("charset", "charset"), ("collation", "collation"), ("json", "json_tag"), ("table_prefix", "table_prefix"),
  ("col_prefix", "column_prefix"), ("no_null", "no_null_type"), ("null_style", "null_style"), ("pkg", "package"),
  ("with_type", "with_type"), ("with_tablename", "force_table_name")]

/-- A value that is given, which a null value is not. -/
def givenValue? (v : Value) : Option Value := if v.isNull then none else some v

/-- The entries that values give by their names on the command line. -/
def givenEntries (values : String → Value) : List (String × Value) :=
  present (optionFields.map fun (field, option) => (option, givenValue? (values field)))

theorem known_givenEntries [Validator] (values : String → Value) : Known (givenEntries values) :=
  fun _ hentry => fst_mem_of_mem_present hentry

/-! ### The values of a run -/

/-- The values of arguments by their names. A flag that is not set has none. -/
def Arguments.fields (a : Arguments) : List (String × Value) :=
  let text (s : Option String) : Value := s.elim .null .text
  let flag (on : Bool) : Value := if on then .bool true else .null
  [("charset", text a.charset), ("collation", text a.collation), ("json", flag a.json),
    ("table_prefix", text a.tablePrefixes), ("col_prefix", text a.columnPrefixes), ("no_null", flag a.noNull),
    ("null_style", text a.nullStyle), ("pkg", text a.package), ("with_type", flag a.withType),
    ("with_tablename", flag a.withTableName)]

def Arguments.value (a : Arguments) (field : String) : Value := (a.fields.lookup field).getD .null

/-- A run gives the entries of its values. -/
theorem entries_eq_givenEntries (a : Arguments) : a.entries = givenEntries a.value := by
  have htext (s : Option String) : givenValue? (s.elim .null .text) = s.map .text := by cases s <;> rfl
  have hflag (on : Bool) : givenValue? (if on then .bool true else .null) = Choice.flagValue on := by cases on <;> rfl
  rw [a.entries_eq_present]
  simp only [← htext, ← hflag]
  rfl

/-- For all values of the command line, two files whose mappings agree in what is not given on it make the same
options or the same error, and where a file is accepted by itself and with these values, each option that is not
given on the command line keeps its value. -/
theorem load_givenEntries [Yaml.Loader] [Validator] (values : String → Value) :
    (∀ {files files' : Files.Tree} {path path' : String} {entries others : List (String × Value)},
      Stores files path entries → Stores files' path' others →
        unshadowed (givenEntries values) entries = unshadowed (givenEntries values) others →
          load files (some path) (givenEntries values) = load files' (some path') (givenEntries values)) ∧
    ∀ {files : Files.Tree} {path : Option String} {o o' : Options}, load files path [] = .ok o →
      load files path (givenEntries values) = .ok o' →
        ∀ name ∉ (givenEntries values).map Prod.fst, o'.value name = o.value name :=
  ⟨fun h h' => load_congr_of_unshadowed h h' (known_givenEntries values), fun h h' _ => value_of_load h h'⟩

theorem load_givenEntries_package :
    let files : Files.Tree :=
      { files := [(["a.yml"], Text.Utf8.encode "package: 1a\ncharset: utf8\n"),
          (["b.yml"], Text.Utf8.encode "charset: utf8\npackage: dao\n")] }
    let given := givenEntries fun field => if field = "pkg" then .text "web" else .null
    load files (some "a.yml") given = load files (some "b.yml") given ∧
      ∀ name ∉ given.map Prod.fst, Options.value { charset := some "utf8", package := "web" } name =
        Options.value { charset := some "utf8", package := "dao" } name := by
  intro files given
  have hfirst : Stores files "a.yml" [("package", .text "1a"), ("charset", .text "utf8")] :=
    stores_of_plainMapping? (Text.Utf8.encode "package: 1a\ncharset: utf8\n")
      [("package", "1a"), ("charset", "utf8")] (by decide) rfl
      (by decide +kernel)
  have hsecond : Stores files "b.yml" [("charset", .text "utf8"), ("package", .text "dao")] :=
    stores_of_plainMapping? (Text.Utf8.encode "charset: utf8\npackage: dao\n")
      [("charset", "utf8"), ("package", "dao")] (by decide) rfl
      (by decide +kernel)
  have halone : load files (some "b.yml") [] = .ok { charset := some "utf8", package := "dao" } :=
    Attempt.toOption_eq_some_iff.mp (by decide +kernel)
  have hboth : load files (some "b.yml") given = .ok { charset := some "utf8", package := "web" } :=
    Attempt.toOption_eq_some_iff.mp (by decide +kernel)
  have hresults := load_givenEntries fun field => if field = "pkg" then .text "web" else .null
  exact ⟨hresults.1 hfirst hsecond rfl, hresults.2 halone hboth⟩

end GormModels.Cli
