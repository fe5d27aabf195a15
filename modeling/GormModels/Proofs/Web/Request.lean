import GormModels.Proofs.Choice
import GormModels.Proofs.Web.Framework

/-!
# A request for a choice

A request makes a choice option by option, and a flag may be set by any word that is read as true. The entries of
such a request give the options of the choice.
-/

namespace GormModels

/-- The options that are flags. -/
def flagOptions : List String := ["json_tag", "no_null_type", "with_type", "force_table_name"]

section

variable [Validator]

/-- A setter of a flag does the same for all values that are read as true. -/
theorem Options.set_flag {s : Setter} (hs : s ∈ setters) (hflag : s.option ∈ flagOptions) {v : Value}
    (hv : readFlag v = .ok true) (o : Options) : ∃ o', s.set o v = .ok o' ∧ s.set o (.bool true) = .ok o' := by
  have htrue : readFlag (.bool true) = .ok true := rfl
  simp only [setters, List.mem_cons, List.not_mem_nil, or_false] at hs
  rcases hs with rfl | rfl | rfl | rfl | rfl | rfl | rfl | rfl | rfl | rfl
  all_goals first
    | (simp only [hv, htrue]; exact ⟨_, rfl, rfl⟩)
    | simp [flagOptions] at hflag

namespace Web

/-- What is given for an option, if anything, stands for a value of it, if any. -/
def StandsFor (option : String) (given value : Option Value) : Prop :=
  given = value ∨
    option ∈ flagOptions ∧ value = some (.bool true) ∧ ∃ v, given = some v ∧ Options.readFlag v = .ok true

/-- A request makes a choice. -/
structure Makes (t : CompileRequest) (c : Choice) : Prop where
  sql : t.sql = c.sql
  options : ∀ option ∈ Options.names, StandsFor option (t.entries.lookup option) (c.entries.lookup option)

/-- A request for a choice. -/
def Asks [Text.Halves] (r : Request) (c : Choice) : Prop := ∃ t, Sends r t ∧ Makes t c

theorem takenAlike_of_standsFor {s : Options.Setter} (hs : s ∈ Options.setters) {given value : Option Value}
    (h : StandsFor s.option given value) : Options.TakenAlike s given value := by
  obtain rfl | ⟨hflag, rfl, v, rfl, hv⟩ := h
  · exact .inl rfl
  · exact .inr ⟨v, .bool true, rfl, rfl, Options.set_flag hs hflag hv⟩

theorem CompileRequest.known_entries (t : CompileRequest) : Options.Known t.entries := by
  have hnames : ∀ option ∈ t.table.map Prod.fst, option ∈ Options.names := by
    change ∀ option ∈ ["column_prefix", "json_tag", "table_prefix", "package", "no_null_type", "null_style",
      "with_type", "force_table_name", "charset", "collation"], option ∈ Options.names
    decide
  exact fun entry (hentry : entry ∈ Options.present t.table) => hnames _ (Options.fst_mem_of_mem_present hentry)

theorem ofEntries_of_makes {t : CompileRequest} {c : Choice} (h : Makes t c) :
    Options.ofEntries t.entries = Options.ofEntries c.entries := by
  have hunknown : Options.unknownEntries t.entries = Options.unknownEntries c.entries :=
    (Options.unknownEntries_eq_nil_iff.mpr t.known_entries).trans
      (Options.unknownEntries_eq_nil_iff.mpr c.known_entries).symm
  refine Options.ofEntries_congr hunknown fun s hs => ?_
  exact takenAlike_of_standsFor hs (h.options _ (List.mem_map_of_mem (f := Options.Setter.option) hs))

end Web

end

end GormModels
