import Mathlib.Data.List.Nodup
import GormModels.Options.Load
import GormModels.Proofs.Attempt

/-!
# What entries make of options

Entries count by what each setter finds under the name of its option: their order does not matter, nor does it
matter which of the values that the setter reads alike stands there. Without a file the options of a run are
those that the command line gives.
-/

namespace GormModels.Options

/-! ### Tables of values that may be missing -/

section

variable {table : List (String × Option Value)}

/-- The entries of a table, of which missing values give none. -/
def present (table : List (String × Option Value)) : List (String × Value) :=
  table.filterMap fun (name, v) => v.map (name, ·)

@[simp] theorem present_nil : present [] = [] := rfl

@[simp] theorem present_cons (name : String) (v : Option Value) (table : List (String × Option Value)) :
    present ((name, v) :: table) = (v.map (name, ·)).toList ++ present table := by
  cases v <;> rfl

theorem mem_present {name : String} {v : Value} : (name, v) ∈ present table ↔ (name, some v) ∈ table := by
  constructor
  · intro h
    obtain ⟨⟨first, value⟩, hmem, heq⟩ := List.mem_filterMap.mp h
    obtain ⟨v, rfl, heq⟩ := Option.map_eq_some_iff.mp heq
    cases heq
    exact hmem
  · exact fun h => List.mem_filterMap.mpr ⟨_, h, rfl⟩

theorem fst_mem_of_mem_present {entry : String × Value} (h : entry ∈ present table) :
    entry.1 ∈ table.map Prod.fst :=
  List.mem_map.mpr ⟨_, mem_present.mp h, rfl⟩

theorem lookup_present (hnodup : (table.map Prod.fst).Nodup) {name : String} {v : Option Value}
    (hmem : (name, v) ∈ table) : (present table).lookup name = v := by
  induction table with
  | nil => cases hmem
  | cons row table ih =>
      obtain ⟨first, value⟩ := row
      obtain ⟨hfresh, hrest⟩ := List.nodup_cons.mp hnodup
      rw [present_cons, List.lookup_append]
      obtain heq | hbehind := List.mem_cons.mp hmem
      · obtain ⟨rfl, rfl⟩ := Prod.mk.inj heq
        have hnone : (present table).lookup name = none := by
          rw [Attempt.lookup_eq_none_iff, List.mem_map]
          rintro ⟨entry, hentry, rfl⟩
          exact hfresh (fst_mem_of_mem_present hentry)
        cases v <;> simp [hnone]
      · have hne : name ≠ first := by
          rintro rfl
          exact hfresh (List.mem_map.mpr ⟨_, hbehind, rfl⟩)
        cases value <;> simp [List.lookup_cons, beq_eq_false_iff_ne.mpr hne, ih hrest hbehind]

theorem nodup_present (hnodup : (table.map Prod.fst).Nodup) : ((present table).map Prod.fst).Nodup := by
  induction table with
  | nil => exact List.nodup_nil
  | cons row table ih =>
      obtain ⟨first, value⟩ := row
      obtain ⟨hfresh, hrest⟩ := List.nodup_cons.mp hnodup
      cases value with
      | none => exact ih hrest
      | some value =>
          refine List.nodup_cons.mpr ⟨fun hmem => ?_, ih hrest⟩
          obtain ⟨entry, hentry, rfl⟩ := List.mem_map.mp hmem
          exact hfresh (fst_mem_of_mem_present hentry)

end

/-! ### Setters -/

/-- Values that a setter takes alike, or no values. -/
def TakenAlike (s : Setter) (v w : Option Value) : Prop :=
  v = w ∨ ∃ a b, v = some a ∧ w = some b ∧ ∀ o, ∃ o', s.set o a = .ok o' ∧ s.set o b = .ok o'

theorem applySetter_congr {s : Setter} {entries others : List (String × Value)}
    (h : TakenAlike s (entries.lookup s.option) (others.lookup s.option)) (state : Options × List OptionProblem) :
    applySetter entries state s = applySetter others state s := by
  rw [applySetter, applySetter]
  obtain heq | ⟨a, b, ha, hb, hset⟩ := h
  · rw [heq]
  · obtain ⟨o, hsa, hsb⟩ := hset state.1
    simp only [ha, hb, hsa, hsb]

section

variable [Validator]

/-- Entries all of whose names are options. -/
def Known (entries : List (String × Value)) : Prop := ∀ entry ∈ entries, entry.1 ∈ setters.map Setter.option

theorem any_setters_iff {name : String} :
    setters.any (·.option == name) = true ↔ name ∈ setters.map Setter.option := by
  simp

theorem unknownEntries_eq_nil_iff {entries : List (String × Value)} : unknownEntries entries = [] ↔ Known entries := by
  rw [unknownEntries, List.map_eq_nil_iff, List.filter_eq_nil_iff]
  refine forall₂_congr fun entry _ => ?_
  rw [Bool.not_eq_true', Bool.not_eq_false, any_setters_iff]

/-- Entries give the same options, or the same error, if each setter finds alike values and the entries of no
setter are the same. -/
theorem ofEntries_congr {entries others : List (String × Value)}
    (hunknown : unknownEntries entries = unknownEntries others)
    (halike : ∀ s ∈ setters, TakenAlike s (entries.lookup s.option) (others.lookup s.option)) :
    ofEntries entries = ofEntries others := by
  have hfold : setters.foldl (applySetter entries) ({}, []) = setters.foldl (applySetter others) ({}, []) :=
    List.foldl_ext _ _ _ fun state s hs => applySetter_congr (halike s hs) state
  rw [ofEntries, ofEntries, hfold, hunknown]

end

/-! ### Entries set over others -/

/-- Entries under texts, as a file has them. -/
def texted (entries : List (String × Value)) : List (Value × Value) :=
  entries.map fun (name, value) => (.text name, value)

/-- Entries with one of them set, which keeps its place if it is there and goes to the end if it is new. -/
def setEntry (name : String) (value : Value) : List (String × Value) → List (String × Value)
  | [] => [(name, value)]
  | (n, v) :: rest => if n = name then (n, value) :: rest else (n, v) :: setEntry name value rest

/-- Entries with others set over them, one after the other. -/
def merge (entries given : List (String × Value)) : List (String × Value) :=
  given.foldl (fun entries (name, value) => setEntry name value entries) entries

theorem override_texted (name : String) (value : Value) (entries : List (String × Value)) :
    override name value (texted entries) = texted (setEntry name value entries) := by
  induction entries with
  | nil => rfl
  | cons entry entries ih =>
      change Value.insert (.text name) value ((.text entry.1, entry.2) :: texted entries) = _
      have hsame : (Value.text entry.1).same (.text name) = (entry.1 == name) := by rw [Value.same]
      rw [Value.insert, setEntry, hsame]
      by_cases heq : entry.1 = name
      · rw [if_pos heq, if_pos (beq_iff_eq.mpr heq)]
        rfl
      · rw [if_neg heq, if_neg (mt beq_iff_eq.mp heq)]
        exact congrArg ((.text entry.1, entry.2) :: ·) ih

theorem foldl_override (entries given : List (String × Value)) :
    given.foldl (fun stored (name, value) => override name value stored) (texted entries) =
      texted (merge entries given) := by
  induction given generalizing entries with
  | nil => rfl
  | cons entry given ih =>
      calc _ = given.foldl (fun stored (name, value) => override name value stored)
              (override entry.1 entry.2 (texted entries)) := rfl
        _ = texted (merge (setEntry entry.1 entry.2 entries) given) := by rw [override_texted, ih]

theorem setEntry_of_fresh {name : String} {entries : List (String × Value)} (hfresh : name ∉ entries.map Prod.fst)
    (value : Value) : setEntry name value entries = entries ++ [(name, value)] := by
  induction entries with
  | nil => rfl
  | cons entry entries ih =>
      obtain ⟨hne, hfresh⟩ := not_or.mp (mt List.mem_cons.mpr hfresh)
      rw [setEntry, if_neg fun heq => hne heq.symm, ih hfresh, List.cons_append]

/-- A name that no other entry has is new where it stands. -/
theorem fresh_of_nodup {before after : List (String × Value)} {entry : String × Value}
    (hnodup : ((before ++ entry :: after).map Prod.fst).Nodup) : entry.1 ∉ before.map Prod.fst := by
  rw [List.map_append, List.map_cons, List.nodup_middle, List.nodup_cons] at hnodup
  exact fun hmem => hnodup.1 (List.mem_append_left _ hmem)

theorem merge_of_nodup {entries given : List (String × Value)}
    (hnodup : ((entries ++ given).map Prod.fst).Nodup) : merge entries given = entries ++ given := by
  induction given generalizing entries with
  | nil => rw [List.append_nil, merge, List.foldl_nil]
  | cons entry given ih =>
      have hrest : (((entries ++ [entry]) ++ given).map Prod.fst).Nodup := by
        rwa [List.append_assoc, List.singleton_append]
      calc merge entries (entry :: given)
          = merge (setEntry entry.1 entry.2 entries) given := rfl
        _ = merge (entries ++ [entry]) given := by rw [setEntry_of_fresh (fresh_of_nodup hnodup)]
        _ = entries ++ entry :: given := by rw [ih hrest, List.append_assoc, List.singleton_append]

/-! ### Entries of a run -/

theorem namedEntries_eq_ok_iff {stored : List (Value × Value)} {entries : List (String × Value)} :
    namedEntries stored = .ok entries ↔ stored = texted entries := by
  rw [namedEntries, Attempt.mapM_eq_ok_iff, texted, ← List.forall₂_eq_eq_eq, List.forall₂_map_right_iff]
  refine iff_of_eq (congrArg (List.Forall₂ · stored entries) ?_)
  funext entry named
  obtain ⟨name, value⟩ := entry
  cases name <;> simp [Prod.ext_iff]

/-- The entries that a run has from a file, if it has one. -/
def storedEntries [Yaml.Loader] (files : Files.Tree) (path : Option String) : Except LoadError (List (Value × Value)) :=
  match path.filter (· != "") with
  | some path => fileEntries files path
  | none => .ok []

section

variable [Yaml.Loader] [Validator]

theorem load_eq_bind (files : Files.Tree) (path : Option String) (given : List (String × Value)) :
    load files path given = (storedEntries files path >>= fun stored =>
      namedEntries (given.foldl (fun stored (name, value) => override name value stored) stored) >>=
        fun named => (ofEntries named).mapError .options) := by
  unfold load storedEntries
  cases path.filter (· != "") <;> rfl

/-- Entries of a file take those of the command line over them. -/
theorem load_of_stored {files : Files.Tree} {path : Option String} {entries : List (String × Value)}
    (hstored : storedEntries files path = .ok (texted entries)) (given : List (String × Value)) :
    load files path given = (ofEntries (merge entries given)).mapError .options := by
  rw [load_eq_bind, hstored, Attempt.ok_bind, foldl_override, namedEntries_eq_ok_iff.mpr rfl, Attempt.ok_bind]

theorem load_given (files : Files.Tree) {given : List (String × Value)} (hnodup : (given.map Prod.fst).Nodup) :
    load files none given = (ofEntries given).mapError .options := by
  have hstored : storedEntries files none = .ok (texted []) := rfl
  have hmerged : merge [] given = [] ++ given := merge_of_nodup hnodup
  rw [load_of_stored hstored, hmerged, List.nil_append]

end

end GormModels.Options
