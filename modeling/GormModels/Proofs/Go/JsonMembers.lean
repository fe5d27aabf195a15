import GormModels.Naming.Plural
import GormModels.Proofs.Go.StructOutcome
import GormModels.Proofs.Naming.JsonName

/-!
# JSON members of a struct

Only the names of fields are checked for repetition, not their JSON names. These come from another way of
cutting words, so columns may pass the check and still share a member. They do where they have the same words
in small letters.
-/

namespace GormModels.Go

variable {options : Options} {name : String} {t : Table} {s : Struct}

/-- The words that the JSON name of a column is made of. -/
def jsonWordsOf (options : Options) (c : Column) : List (List Char) :=
  Naming.loweredWords c.name options.columnPrefixes

theorem map_jsonName_eq [Naming.Inflection] (hs : structOf options t name = .ok s) (hjson : options.jsonTag = true) :
    s.fields.map (·.jsonName) =
      t.columns.map fun c => some (Naming.jsonName c.name options.columnPrefixes) := by
  have hfields := (isStructOf_of_structOf_eq_ok hs).fields
  generalize t.columns = columns, s.fields = fields at hfields ⊢
  induction hfields with
  | nil => rfl
  | cons hfield _ ih =>
      obtain ⟨-, -, -, hname⟩ := hfield
      rw [List.map_cons, List.map_cons, ih, hname, if_pos hjson]

/-- JSON names are distinct exactly where no two columns have the same words, up to letter case. -/
theorem nodup_jsonName_iff [Naming.Inflection] (hs : structOf options t name = .ok s) (hjson : options.jsonTag = true) :
    (s.fields.map (·.jsonName)).Nodup ↔ (t.columns.map (jsonWordsOf options)).Nodup := by
  rw [map_jsonName_eq hs hjson, List.Nodup, List.Nodup, List.pairwise_map, List.pairwise_map]
  simp only [ne_eq, Option.some.injEq, Naming.jsonName_eq_iff, jsonWordsOf]

/-! ### Two columns with one member -/

def acronymOptions : Options := { jsonTag := true, forceTableName := true }

/-- Both columns are the words foo and bar. A word in capitals stays so in the name of a field, which tells
the fields apart, but no letter case is left in a JSON name. -/
def acronymTable : Table :=
  { name := "t"
    columns := [{ name := "FOOBar", typeName := "INT" }, { name := "foo_bar", typeName := "INT" }] }

def acronymStruct : Struct :=
  { name := "T"
    fields :=
      [{ name := "FOOBar", type := "int32", tag := "gorm:\"column:FOOBar;NOT NULL\" json:\"foo_bar\""
         column := "FOOBar", jsonName := some "foo_bar" },
       { name := "FooBar", type := "int32", tag := "gorm:\"column:foo_bar;NOT NULL\" json:\"foo_bar\""
         column := "foo_bar", jsonName := some "foo_bar" }]
    table := "t"
    package := "model"
    namesTable := true }

theorem structOf_acronymTable : structOf acronymOptions acronymTable "T" = .ok acronymStruct := by
  decide +kernel

theorem nodup_jsonName_iff_acronymTable :
    (acronymStruct.fields.map (·.jsonName)).Nodup ↔
      (acronymTable.columns.map (jsonWordsOf acronymOptions)).Nodup :=
  nodup_jsonName_iff structOf_acronymTable rfl

theorem acronymTable_repeats_jsonName :
    (acronymTable.columns.map fun c => Text.lowerText c.name).Nodup ∧
      structOf acronymOptions acronymTable "T" = .ok acronymStruct ∧
      ¬(acronymStruct.fields.map (·.jsonName)).Nodup :=
  ⟨by decide +kernel, structOf_acronymTable, by decide⟩

end GormModels.Go
