import GormModels.Proofs.Options.Stored

/-!
# Entries of the command line over those of a file

An entry that is given takes the place of the one of its name, so nothing is left of what it shadows, and what it
does not name is as it was.
-/

namespace GormModels.Options

variable {entries others given : List (String × Value)} {name : String}

/-! ### Merged entries -/

theorem lookup_cons_ite (entry : String × Value) (entries : List (String × Value)) :
    (entry :: entries).lookup name = if name = entry.1 then some entry.2 else entries.lookup name := by
  obtain ⟨first, value⟩ := entry
  by_cases heq : name = first
  · rw [if_pos heq, heq, List.lookup_cons_self]
  · rw [if_neg heq, List.lookup_cons, beq_eq_false_iff_ne.mpr heq]

theorem lookup_setEntry (key : String) (value : Value) (entries : List (String × Value)) :
    (setEntry key value entries).lookup name = if name = key then some value else entries.lookup name := by
  induction entries with
  | nil => rw [setEntry, lookup_cons_ite]
  | cons entry entries ih =>
      rw [setEntry]
      split
      case isTrue hfirst =>
          rw [lookup_cons_ite, lookup_cons_ite, hfirst]
          by_cases heq : name = key
          · rw [if_pos heq, if_pos heq]
          · rw [if_neg heq, if_neg heq, if_neg heq]
      case isFalse hfirst =>
          rw [lookup_cons_ite, lookup_cons_ite, ih]
          by_cases heq : name = entry.1
          · rw [if_pos heq, if_pos heq, if_neg fun hkey => hfirst (heq.symm.trans hkey)]
          · rw [if_neg heq, if_neg heq]

/-- Of the entries that are given under one name the last counts. -/
theorem lookup_merge : (merge entries given).lookup name = (given.reverse.lookup name).or (entries.lookup name) := by
  induction given generalizing entries with
  | nil => rfl
  | cons entry given ih =>
      -- The first one that is given is set first, so all others are found before it.
      have hentry : (setEntry entry.1 entry.2 entries).lookup name =
          ([entry].lookup name).or (entries.lookup name) := by
        rw [lookup_setEntry, lookup_cons_ite]
        split <;> rfl
      calc (merge entries (entry :: given)).lookup name
          = (merge (setEntry entry.1 entry.2 entries) given).lookup name := rfl
        _ = (given.reverse.lookup name).or ((setEntry entry.1 entry.2 entries).lookup name) := ih
        _ = ((entry :: given).reverse.lookup name).or (entries.lookup name) := by
            rw [hentry, List.reverse_cons, List.lookup_append, Option.or_assoc]

theorem lookup_reverse_eq_none_iff : given.reverse.lookup name = none ↔ name ∉ given.map Prod.fst := by
  rw [Attempt.lookup_eq_none_iff, List.map_reverse, List.mem_reverse]

/-- What is given under a name stands there whatever stood there before. -/
theorem lookup_merge_of_mem (hname : name ∈ given.map Prod.fst) :
    (merge entries given).lookup name = given.reverse.lookup name := by
  cases hlookup : given.reverse.lookup name with
  | none => exact absurd hname (lookup_reverse_eq_none_iff.mp hlookup)
  | some v => rw [lookup_merge, hlookup, Option.some_or]

theorem lookup_merge_of_not_mem (hname : name ∉ given.map Prod.fst) :
    (merge entries given).lookup name = entries.lookup name := by
  rw [lookup_merge, lookup_reverse_eq_none_iff.mpr hname, Option.none_or]

theorem filter_setEntry {p : String → Bool} {key : String} (hkey : p key = false) (value : Value)
    (entries : List (String × Value)) :
    (setEntry key value entries).filter (p ·.1) = entries.filter (p ·.1) := by
  induction entries with
  | nil => simp [setEntry, hkey]
  | cons entry entries ih =>
      rw [setEntry]
      split
      case isTrue heq => simp [heq, hkey]
      case isFalse => rw [List.filter_cons, List.filter_cons, ih]

/-- Entries of names that are not given are those from before. -/
theorem filter_merge {p : String → Bool} (hgiven : ∀ entry ∈ given, p entry.1 = false) :
    (merge entries given).filter (p ·.1) = entries.filter (p ·.1) := by
  induction given generalizing entries with
  | nil => rfl
  | cons entry given ih =>
      obtain ⟨hentry, hgiven⟩ := List.forall_mem_cons.mp hgiven
      exact (ih hgiven).trans (filter_setEntry hentry entry.2 entries)

/-! ### What is shadowed -/

/-- The entries that none of those given shadows. -/
def unshadowed (given entries : List (String × Value)) : List (String × Value) :=
  entries.filter fun entry => entry.1 ∉ given.map Prod.fst

theorem lookup_unshadowed (hname : name ∉ given.map Prod.fst) :
    (unshadowed given entries).lookup name = entries.lookup name := by
  induction entries with
  | nil => rfl
  | cons entry entries ih =>
      by_cases hentry : entry.1 ∈ given.map Prod.fst
      · have hne : name ≠ entry.1 := fun heq => hname (heq ▸ hentry)
        rw [lookup_cons_ite, if_neg hne, ← ih, unshadowed, List.filter_cons_of_neg (by simpa using hentry), unshadowed]
      · rw [unshadowed, List.filter_cons_of_pos (by simpa using hentry), lookup_cons_ite, lookup_cons_ite, ← ih,
          unshadowed]

section

variable [Validator]

/-- No option takes an entry that is shadowed by one of no option. -/
theorem unknownEntries_unshadowed (hgiven : Known given) :
    unknownEntries (unshadowed given entries) = unknownEntries entries := by
  rw [unknownEntries, unknownEntries, unshadowed, List.filter_filter]
  refine congrArg (List.map _) (List.filter_congr fun entry _ => ?_)
  by_cases hentry : entry.1 ∈ given.map Prod.fst
  · obtain ⟨shadow, hshadow, heq⟩ := List.mem_map.mp hentry
    have hknown := any_setters_iff.mpr (heq ▸ hgiven shadow hshadow)
    simp [hknown]
  · simp only [hentry, not_false_eq_true, decide_true, Bool.and_true]

theorem unknownEntries_merge (hgiven : Known given) :
    unknownEntries (merge entries given) = unknownEntries entries := by
  have hknown : ∀ entry ∈ given, (!setters.any (·.option == entry.1)) = false := fun entry hentry => by
    rw [any_setters_iff.mpr (hgiven entry hentry), Bool.not_true]
  exact congrArg (List.map _) (filter_merge (p := fun name => !setters.any (·.option == name)) hknown)

/-- Entries that differ in what is shadowed alone make the same of options. -/
theorem ofEntries_merge_congr (hgiven : Known given) (h : unshadowed given entries = unshadowed given others) :
    ofEntries (merge entries given) = ofEntries (merge others given) := by
  refine ofEntries_congr ?_ fun s _ => .inl ?_
  · rw [unknownEntries_merge hgiven, unknownEntries_merge hgiven, ← unknownEntries_unshadowed hgiven, h,
      unknownEntries_unshadowed hgiven]
  · by_cases hname : s.option ∈ given.map Prod.fst
    · rw [lookup_merge_of_mem hname, lookup_merge_of_mem hname]
    · rw [lookup_merge_of_not_mem hname, lookup_merge_of_not_mem hname, ← lookup_unshadowed hname, h,
        lookup_unshadowed hname]

end

/-! ### Runs -/

section

variable [Yaml.Loader]

/-- A file has a mapping of entries under texts. -/
structure Stores (files : Files.Tree) (path : String) (entries : List (String × Value)) : Prop where
  named : path ≠ ""
  reads : ∃ content, files.read (.ofText path) = .ok content ∧ document path content = .ok (.map (texted entries))

theorem Stores.storedEntries {files : Files.Tree} {path : String} (h : Stores files path entries) :
    storedEntries files (some path) = .ok (texted entries) := by
  obtain ⟨content, hread, hdocument⟩ := h.reads
  have hfilter : (some path).filter (· != "") = some path := Option.filter_some_pos (bne_iff_ne.mpr h.named)
  rw [Options.storedEntries, hfilter]
  change fileEntries files path = _
  rw [fileEntries_of_read hread, hdocument]
  rfl

end

/-- The names and texts of entries that are nothing else. -/
def plainEntries? : List (Value × Value) → Option (List (String × String))
  | [] => some []
  | (.text name, .text s) :: rest => (plainEntries? rest).map ((name, s) :: ·)
  | _ :: _ => none

def plainMapping? : Value → Option (List (String × String))
  | .map entries => plainEntries? entries
  | _ => none

theorem eq_of_plainEntries? {stored : List (Value × Value)} {plain : List (String × String)}
    (h : plainEntries? stored = some plain) : stored = texted (plain.map fun (name, s) => (name, .text s)) := by
  induction stored using plainEntries?.induct generalizing plain with
  | case1 =>
      cases h
      rfl
  | case2 name s rest ih =>
      obtain ⟨behind, hbehind, rfl⟩ := Option.map_eq_some_iff.mp h
      exact congrArg ((.text name, .text s) :: ·) (ih hbehind)
  | case3 entry rest hother =>
      rw [plainEntries?.eq_3 _ _ hother] at h
      cases h

section

variable [Yaml.Loader]

/-- A mapping of texts can be told by computing it. -/
theorem stores_of_plainMapping? {files : Files.Tree} {path : String} (content : List UInt8)
    (plain : List (String × String)) (hpath : path ≠ "") (hread : files.read (.ofText path) = .ok content)
    (hplain : (document path content).toOption.bind plainMapping? = some plain) :
    Stores files path (plain.map fun (name, s) => (name, .text s)) := by
  obtain ⟨v, hdocument, hv⟩ := Option.bind_eq_some_iff.mp hplain
  refine ⟨hpath, content, hread, ?_⟩
  rw [Attempt.toOption_eq_some_iff.mp hdocument]
  cases v with
  | map stored => rw [eq_of_plainEntries? hv]
  | _ => cases hv

variable [Validator]

theorem load_congr_of_unshadowed {files files' : Files.Tree} {path path' : String} (h : Stores files path entries)
    (h' : Stores files' path' others) (hgiven : Known given)
    (hshadow : unshadowed given entries = unshadowed given others) :
    load files (some path) given = load files' (some path') given := by
  rw [load_of_stored h.storedEntries, load_of_stored h'.storedEntries, ofEntries_merge_congr hgiven hshadow]

/-- What is given changes no other option. -/
theorem value_of_load {files : Files.Tree} {path : Option String} {o o' : Options} (h : load files path [] = .ok o)
    (h' : load files path given = .ok o') (hname : name ∉ given.map Prod.fst) : o'.value name = o.value name := by
  obtain ⟨entries, hstored, halone⟩ := load_eq_ok_iff.mp h
  rw [load_of_stored hstored] at h'
  refine value_eq_of_lookup (Attempt.mapError_eq_ok_iff.mp h') halone ?_
  exact lookup_merge_of_not_mem hname

end

end GormModels.Options
