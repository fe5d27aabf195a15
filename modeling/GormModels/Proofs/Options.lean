import Mathlib.Data.List.Nodup
import GormModels.Options.Coercion
import GormModels.Proofs.Attempt
import GormModels.Proofs.Go.PackageName

/-!
# Options that were accepted

Each option is set by a setter of its own, so what one setter sees to holds of its option once all have run:
an accepted option depends on nothing but the entry of its name.
-/

namespace GormModels

/-! ### Options as values -/

def NullStyle.spelling : NullStyle → String
  | byType => "none"
  | wrapped => "sql"
  | pointer => "ptr"

namespace Options

/-- The values of options by their names, in the order in which they are set. -/
def entries (o : Options) : List (String × Value) := [
  ("charset", o.charset.elim .null .text), ("collation", o.collation.elim .null .text),
  ("json_tag", .bool o.jsonTag), ("table_prefix", .text o.tablePrefixes), ("column_prefix", .text o.columnPrefixes),
  ("no_null_type", .bool o.noNullType), ("null_style", .text o.nullStyle.spelling), ("package", .text o.package),
  ("with_type", .bool o.withType), ("force_table_name", .bool o.forceTableName)]

def value (o : Options) (name : String) : Option Value := o.entries.lookup name

/-- The names of the options. -/
def names : List String := [
  "charset", "collation", "json_tag", "table_prefix", "column_prefix", "no_null_type", "null_style", "package",
  "with_type", "force_table_name"]

variable {entries others : List (String × Value)} {s : Setter} {before after : Options}

section

variable [Validator]

theorem map_option_setters : setters.map Setter.option = names := rfl

theorem map_fst_entries (o : Options) : o.entries.map Prod.fst = setters.map Setter.option := rfl

theorem value_eq_none {name : String} (hname : name ∉ setters.map Setter.option) (o : Options) :
    o.value name = none := by
  rwa [value, Attempt.lookup_eq_none_iff, map_fst_entries]

/-- A setter touches no other option. -/
theorem value_of_set (hs : s ∈ setters) {v : Value} (hset : s.set before v = .ok after) {name : String}
    (hname : name ≠ s.option) : after.value name = before.value name := by
  simp only [setters, List.mem_cons, List.not_mem_nil, or_false] at hs
  rcases hs with rfl | rfl | rfl | rfl | rfl | rfl | rfl | rfl | rfl | rfl
  all_goals
    obtain ⟨_, -, heq⟩ := Attempt.bind_eq_ok_iff.mp hset
    cases heq
    simp only [value, entries, List.lookup_cons, beq_eq_false_iff_ne.mpr hname]

/-- What a setter sets depends on its value alone. -/
theorem value_eq_of_set (hs : s ∈ setters) {v : Value} {before' after' : Options}
    (hset : s.set before v = .ok after) (hset' : s.set before' v = .ok after') :
    after.value s.option = after'.value s.option := by
  simp only [setters, List.mem_cons, List.not_mem_nil, or_false] at hs
  rcases hs with rfl | rfl | rfl | rfl | rfl | rfl | rfl | rfl | rfl | rfl
  all_goals
    obtain ⟨_, hread, heq⟩ := Attempt.bind_eq_ok_iff.mp hset
    obtain ⟨_, hread', heq'⟩ := Attempt.bind_eq_ok_iff.mp hset'
    cases heq
    cases heq'
    cases hread.symm.trans hread'
    rfl

/-- The option of a setter is as before if no entry has its name, else the setter makes it of the entry. -/
inductive Settles (entries : List (String × Value)) (s : Setter) (before after : Options) : Prop
  | kept (hmissing : entries.lookup s.option = none) (hvalue : after.value s.option = before.value s.option)
  | set {v : Value} {o o' : Options} (hfound : entries.lookup s.option = some v) (hset : s.set o v = .ok o')
      (hvalue : after.value s.option = o'.value s.option)

omit [Validator] in
theorem Settles.congr {before' after' : Options} (h : Settles entries s before after)
    (hbefore : before.value s.option = before'.value s.option) (hafter : after'.value s.option = after.value s.option) :
    Settles entries s before' after' := by
  cases h with
  | kept hmissing hvalue => exact .kept hmissing (hafter.trans (hvalue.trans hbefore))
  | set hfound hset hvalue => exact .set hfound hset (hafter.trans hvalue)

theorem Settles.value_eq (hs : s ∈ setters) {after' : Options} (h : Settles entries s before after)
    (h' : Settles others s before after') (hlookup : entries.lookup s.option = others.lookup s.option) :
    after.value s.option = after'.value s.option := by
  cases h with
  | kept hmissing hvalue =>
      cases h' with
      | kept _ hvalue' => rw [hvalue, hvalue']
      | set hfound => rw [hlookup, hfound] at hmissing; cases hmissing
  | set hfound hset hvalue =>
      cases h' with
      | kept hmissing => rw [hlookup, hmissing] at hfound; cases hfound
      | set hfound' hset' hvalue' =>
          rw [hlookup, hfound'] at hfound
          cases hfound
          rw [hvalue, hvalue', value_eq_of_set hs hset hset']

theorem settles_of_applySetter (hs : s ∈ setters) {problems : List OptionProblem}
    (h : applySetter entries (before, problems) s = (after, [])) :
    problems = [] ∧ (∀ name ≠ s.option, after.value name = before.value name) ∧ Settles entries s before after := by
  unfold applySetter at h
  split at h
  case h_1 hmissing =>
      cases h
      exact ⟨rfl, fun _ _ => rfl, .kept hmissing rfl⟩
  case h_2 v hfound =>
      split at h
      case h_1 o hset =>
          cases h
          exact ⟨rfl, fun _ hname => value_of_set hs hset hname, .set hfound hset rfl⟩
      case h_2 complaint _ => exact absurd (congrArg Prod.snd h) (by simp)

/-- Setters that have all succeeded have each set their own option. -/
theorem settles_of_foldl {steps : List Setter} (hsteps : ∀ s ∈ steps, s ∈ setters)
    (hnodup : (steps.map Setter.option).Nodup) {problems : List OptionProblem}
    (h : steps.foldl (applySetter entries) (before, problems) = (after, [])) :
    problems = [] ∧ (∀ name ∉ steps.map Setter.option, after.value name = before.value name) ∧
      ∀ s ∈ steps, Settles entries s before after := by
  induction steps generalizing before problems with
  | nil =>
      cases h
      exact ⟨rfl, fun _ _ => rfl, fun s hs => absurd hs List.not_mem_nil⟩
  | cons first rest ih =>
      -- Problems are never taken back, so there are none behind the first setter either.
      obtain ⟨hfresh, hnodup⟩ := List.nodup_cons.mp hnodup
      cases hstep : applySetter entries (before, problems) first with
      | mk middle problems' =>
      rw [List.foldl_cons, hstep] at h
      obtain ⟨rfl, hothers, hrest⟩ := ih (fun s hs => hsteps s (List.mem_cons_of_mem _ hs)) hnodup h
      obtain ⟨hproblems, hframe, hfirst⟩ := settles_of_applySetter (hsteps _ List.mem_cons_self) hstep
      refine ⟨hproblems, fun name hname => ?_, fun s hs => ?_⟩
      · rw [List.map_cons, List.mem_cons, not_or] at hname
        rw [hothers name hname.2, hframe name hname.1]
      · obtain rfl | hs := List.mem_cons.mp hs
        · exact hfirst.congr rfl (hothers s.option hfresh)
        · have hne : s.option ≠ first.option := fun heq => hfresh (heq ▸ List.mem_map_of_mem hs)
          exact (hrest s hs).congr (hframe _ hne) rfl

theorem ofEntries_eq_ok_iff : ofEntries entries = .ok after ↔
    setters.foldl (applySetter entries) ({}, []) = (after, []) ∧ unknownEntries entries = [] := by
  unfold ofEntries
  generalize setters.foldl (applySetter entries) ({}, []) = state
  obtain ⟨set, problems⟩ := state
  dsimp only
  split
  case h_1 hnone =>
      obtain ⟨rfl, hunknown⟩ := List.append_eq_nil_iff.mp hnone
      simp [hunknown]
  case h_2 first more hproblems =>
      refine iff_of_false nofun ?_
      rintro ⟨hset, hunknown⟩
      rw [hunknown, (Prod.mk.inj hset).2] at hproblems
      cases hproblems

theorem settles_of_ofEntries (h : ofEntries entries = .ok after) :
    ∀ s ∈ setters, Settles entries s {} after := by
  have hnodup : (setters.map Setter.option).Nodup := by
    rw [map_option_setters]
    decide
  exact (settles_of_foldl (fun _ hs => hs) hnodup (ofEntries_eq_ok_iff.mp h).1).2.2

/-- An accepted option depends on the entry of its name alone. -/
theorem value_eq_of_lookup {o o' : Options} (h : ofEntries entries = .ok o) (h' : ofEntries others = .ok o')
    {name : String} (hlookup : entries.lookup name = others.lookup name) : o.value name = o'.value name := by
  by_cases hname : name ∈ setters.map Setter.option
  · obtain ⟨s, hs, rfl⟩ := List.mem_map.mp hname
    exact (settles_of_ofEntries h s hs).value_eq hs (settles_of_ofEntries h' s hs) hlookup
  · rw [value_eq_none hname, value_eq_none hname]

end

/-! ### The package -/

open Go Text

theorem getLast?_trim {s : List Char} {c : Char} (hc : (trim s).getLast? = some c) : isBlank c = false := by
  have hlast := List.head?_dropWhile_not isBlank (trimLeft s).reverse
  rw [trim, trimRight, List.getLast?_reverse] at hc
  rw [hc] at hlast
  exact hlast

/-- A package name is made of name characters alone, but for a line feed at its end. -/
theorem isNameChar_of_isPackageName {name : String} (hname : isPackageName name = true)
    (hend : name.toList.getLast? ≠ some '\n') : ∀ c ∈ name.toList, isNameChar c = true := by
  obtain ⟨hidentifier | ⟨s, -, hsplit⟩, -⟩ := isPackageName_eq_true_iff.mp hname
  · exact isNameChar_of_isIdentifier hidentifier
  · exact absurd (by rw [hsplit, List.getLast?_concat]) hend

/-- A package that is read is the default, or a text that is one by its name without the blanks around it. -/
theorem default_or_text_of_readPackage {v : Value} {name : String} (hname : readPackage v = .ok name) :
    name = "model" ∨ isPackageName name = true ∧ ∃ text, v = .text text ∧ trimText text = name := by
  unfold readPackage at hname
  split at hname
  case h_1 =>
      cases hname
      exact .inl rfl
  case h_2 text =>
      dsimp only at hname
      split at hname
      · cases hname
        exact .inl rfl
      · split at hname
        case isTrue hvalid =>
            cases hname
            exact .inr ⟨hvalid, text, rfl, rfl⟩
        case isFalse => cases hname
  case h_3 => cases hname

theorem readPackage_text {text : String} (hvalid : isPackageName (trimText text) = true) :
    readPackage (.text text) = .ok (trimText text) := by
  have hne : (trimText text == "") = false := by
    rw [beq_eq_false_iff_ne]
    intro hempty
    rw [hempty] at hvalid
    exact absurd hvalid (by decide)
  simp only [readPackage, hne, hvalid, if_true, Bool.false_eq_true, if_false]

/-- A package that is read is one by its name, and ends in no line feed. -/
theorem isPackageName_of_readPackage {v : Value} {name : String} (hname : readPackage v = .ok name) :
    isPackageName name = true ∧ name.toList.getLast? ≠ some '\n' := by
  obtain rfl | ⟨hvalid, text, -, rfl⟩ := default_or_text_of_readPackage hname
  · decide
  · refine ⟨hvalid, fun hend => ?_⟩
    rw [trimText, String.toList_ofList] at hend
    exact absurd (getLast?_trim hend) (by decide)

section

variable [Validator]

/-- The package of accepted options is the default, or what was read of its entry. -/
theorem package_of_ofEntries {o : Options} (h : ofEntries entries = .ok o) :
    entries.lookup "package" = none ∧ o.package = "model" ∨
      ∃ v, entries.lookup "package" = some v ∧ readPackage v = .ok o.package := by
  have hmem : (⟨"package", fun o v => do return { o with package := ← readPackage v }⟩ : Setter) ∈ setters := by
    simp [setters]
  cases settles_of_ofEntries h _ hmem with
  | kept hmissing hvalue => exact .inl ⟨hmissing, Value.text.inj (Option.some.inj hvalue)⟩
  | set hfound hset hvalue =>
      obtain ⟨name, hname, heq⟩ := Attempt.bind_eq_ok_iff.mp hset
      cases heq
      cases Value.text.inj (Option.some.inj hvalue)
      exact .inr ⟨_, hfound, hname⟩

/-- The package of accepted options is one by its name. -/
theorem isPackageName_of_ofEntries {o : Options} (h : ofEntries entries = .ok o) :
    isPackageName o.package = true ∧ o.package.toList.getLast? ≠ some '\n' := by
  obtain ⟨-, hdefault⟩ | ⟨v, -, hread⟩ := package_of_ofEntries h
  · rw [hdefault]
    decide
  · exact isPackageName_of_readPackage hread

/-- The package of accepted options is a plain identifier. -/
theorem isNameChar_of_ofEntries_eq_ok {o : Options} (h : ofEntries entries = .ok o) :
    ∀ c ∈ o.package.toList, isNameChar c = true := by
  obtain ⟨hname, hend⟩ := isPackageName_of_ofEntries h
  exact isNameChar_of_isPackageName hname hend

/-- Accepted options have the blank identifier for their package exactly if it was given. -/
theorem package_eq_blank_iff {o : Options} (h : ofEntries entries = .ok o) :
    o.package = "_" ↔ ∃ text, entries.lookup "package" = some (.text text) ∧ trimText text = "_" := by
  obtain ⟨hmissing, hdefault⟩ | ⟨v, hfound, hread⟩ := package_of_ofEntries h
  · rw [hmissing, hdefault]
    simp
  · constructor
    · intro hblank
      rw [hblank] at hread
      obtain hdefault | ⟨-, text, rfl, htext⟩ := default_or_text_of_readPackage hread
      · exact absurd hdefault (by decide)
      · exact ⟨text, hfound, htext⟩
    · rintro ⟨text, hgiven, htext⟩
      obtain rfl := Option.some.inj (hfound.symm.trans hgiven)
      have hvalid : isPackageName (trimText text) = true := by
        rw [htext]
        decide
      rw [readPackage_text hvalid] at hread
      exact (Except.ok.inj hread).symm.trans htext

/-- Accepted options have a package that a clause may name, or the blank identifier. -/
theorem namesPackage_iff_of_ofEntries {o : Options} (h : ofEntries entries = .ok o) :
    NamesPackage o.package ↔ o.package ≠ "_" := by
  refine ⟨NamesPackage.blank, fun hblank => ?_⟩
  obtain ⟨hvalid, hend⟩ := isPackageName_of_ofEntries h
  obtain hname | hname | ⟨s, -, hname⟩ := isPackageName_iff_namesPackage.mp hvalid
  · exact hname
  · exact absurd hname hblank
  · exact absurd (by simp [hname]) hend

/-- A name passes as that of a package exactly if a package clause may have it, or if it is the blank identifier or an
identifier with a line feed behind it. The package of accepted options is legal in a clause exactly unless the blank
identifier was given for it, with or without blanks around it. -/
theorem isPackageName_outcome (name : String) (entries : List (String × Value)) :
    (isPackageName name = true ↔
      NamesPackage name ∨ name = "_" ∨ ∃ s : String, IsIdentifier s.toList ∧ name = s ++ "\n") ∧
    ∀ o, ofEntries entries = .ok o →
      (NamesPackage o.package ↔ ¬∃ text, entries.lookup "package" = some (.text text) ∧ trimText text = "_") := by
  refine ⟨isPackageName_iff_namesPackage, fun o h => ?_⟩
  rw [namesPackage_iff_of_ofEntries h, Ne, package_eq_blank_iff h]

end

/-- The blank identifier is accepted for a package, and the test alone accepts a line feed behind a name. -/
theorem misnamed_isPackageName :
    (isPackageName "_" = true ∧ ¬NamesPackage "_") ∧
    (isPackageName "model\n" = true ∧ ¬NamesPackage "model\n") ∧
    ∃ o, ofEntries [("package", .text "_")] = .ok o ∧ ¬NamesPackage o.package := by
  have hblank : ¬NamesPackage "_" := fun hname => hname.blank rfl
  refine ⟨⟨by decide, hblank⟩, ⟨by decide, fun hname => ?_⟩, { package := "_" }, rfl, hblank⟩
  exact absurd (isNameChar_of_isIdentifier hname.identifier '\n' (by decide)) (by decide)

end Options

end GormModels
