import GormModels.Yaml
import GormModels.Proofs.Options
import GormModels.Proofs.Options.Entries

/-!
# Options of a file

What a file is that gives options or a report, and what it is where neither comes of it: its path is refused, it
cannot be loaded for another reason than that it is not YAML, or it has an entry whose name is not a text.
The entries of the command line do not matter to it, as they neither take a name away nor give one that is no text.
-/

namespace GormModels.Options

variable {α β : Type} {files : Files.Tree} {path : String}

/-! ### Errors that nothing is reported of -/

section

variable [Validator]

/-- An attempt fails without a report. -/
def Unreported (r : Except LoadError α) : Prop := ∃ e, r = .error e ∧ e.report? = none

theorem unreported_bind {x : Except LoadError α} {f : α → Except LoadError β} :
    Unreported (x >>= f) ↔ Unreported x ∨ ∃ a, x = .ok a ∧ Unreported (f a) := by
  simp only [Unreported, Attempt.bind_eq_error_iff]
  constructor
  · rintro ⟨e, herror | ⟨a, ha, herror⟩, hreport⟩
    · exact .inl ⟨e, herror, hreport⟩
    · exact .inr ⟨a, ha, e, herror, hreport⟩
  · rintro (⟨e, herror, hreport⟩ | ⟨a, ha, e, herror, hreport⟩)
    · exact ⟨e, .inl herror, hreport⟩
    · exact ⟨e, .inr ⟨a, ha, herror⟩, hreport⟩

theorem unreported_error {e : LoadError} : Unreported (.error e : Except LoadError α) ↔ e.report? = none := by
  constructor
  · rintro ⟨_, ⟨⟩, hreport⟩
    exact hreport
  · exact fun hreport => ⟨e, rfl, hreport⟩

theorem not_unreported_ok {a : α} : ¬ Unreported (.ok a : Except LoadError α) := by
  rintro ⟨e, ⟨⟩, -⟩

theorem kind_of_report? {e : LoadError} {r : Report} (h : e.report? = some r) : r.kind = .configuration := by
  cases e with
  | notFound | notMapping | options => exact Option.some.inj h ▸ rfl
  | yaml path failure =>
      cases failure with
      | malformed text => exact Option.some.inj h ▸ rfl
      | undecodable | misfit | tooDeep => cases h
  | refused | undecodable | entryName => cases h

end

/-! ### Names that are no texts -/

/-- A name that no option can have. -/
def IsNameless (name : Value) : Prop := ∀ s, name ≠ .text s

theorem exists_of_namedEntries_eq_error {stored : List (Value × Value)} {e : LoadError}
    (h : namedEntries stored = .error e) : ∃ entry ∈ stored, IsNameless entry.1 ∧ e = .entryName entry.1 := by
  obtain ⟨before, entry, after, rfl, -, hentry⟩ := Attempt.mapM_eq_error_iff.mp h
  refine ⟨entry, List.mem_append_right _ List.mem_cons_self, ?_⟩
  obtain ⟨name, value⟩ := entry
  cases name with
  | text s => cases hentry
  | _ =>
      cases hentry
      exact ⟨nofun, rfl⟩

theorem unreported_namedEntries [Validator] {stored : List (Value × Value)} :
    Unreported (namedEntries stored) ↔ ∃ entry ∈ stored, IsNameless entry.1 := by
  constructor
  · rintro ⟨e, herror, -⟩
    obtain ⟨entry, hentry, hname, -⟩ := exists_of_namedEntries_eq_error herror
    exact ⟨entry, hentry, hname⟩
  · rintro ⟨entry, hentry, hname⟩
    cases hnamed : namedEntries stored with
    | ok entries =>
        rw [namedEntries_eq_ok_iff.mp hnamed, texted] at hentry
        obtain ⟨named, -, rfl⟩ := List.mem_map.mp hentry
        exact absurd rfl (hname named.1)
    | error e =>
        obtain ⟨_, -, -, rfl⟩ := exists_of_namedEntries_eq_error hnamed
        exact unreported_error.mpr rfl

/-- Setting an option leaves the names that are no texts where they are. -/
theorem exists_isNameless_override {name : String} {value : Value} {stored : List (Value × Value)} :
    (∃ entry ∈ override name value stored, IsNameless entry.1) ↔ ∃ entry ∈ stored, IsNameless entry.1 := by
  have htext : ¬ IsNameless (.text name) := fun h => h name rfl
  rw [override]
  induction stored with
  | nil => simpa [Value.insert] using htext
  | cons entry stored ih =>
      rw [Value.insert]
      split
      case isTrue hsame =>
          rw [List.exists_mem_cons_iff, List.exists_mem_cons_iff]
      case isFalse =>
          rw [List.exists_mem_cons_iff, List.exists_mem_cons_iff]
          exact or_congr_right ih

theorem exists_isNameless_foldl (given : List (String × Value)) {stored : List (Value × Value)} :
    (∃ entry ∈ given.foldl (fun stored (name, value) => override name value stored) stored, IsNameless entry.1) ↔
      ∃ entry ∈ stored, IsNameless entry.1 := by
  induction given generalizing stored with
  | nil => rfl
  | cons entry given ih => exact ih.trans exists_isNameless_override

/-! ### Files -/

/-- The entries of a mapping, or none where nothing is. -/
def mappingEntries (path : String) (v : Value) : Except LoadError (List (Value × Value)) :=
  match v with
  | .map entries => .ok entries
  | v => if v.isTruthy then .error (.notMapping path) else .ok []

theorem of_mappingEntries_eq_ok {v : Value} {stored : List (Value × Value)}
    (h : mappingEntries path v = .ok stored) : v = .map stored ∨ stored = [] := by
  unfold mappingEntries at h
  split at h
  · cases h
    exact .inl rfl
  · split at h <;> cases h
    exact .inr rfl

theorem not_unreported_mappingEntries [Validator] {v : Value} : ¬ Unreported (mappingEntries path v) := by
  unfold mappingEntries
  split
  · exact not_unreported_ok
  · split
    · exact mt unreported_error.mp (by simp [LoadError.report?])
    · exact not_unreported_ok

theorem isFile_of_read {place : Files.Path} {content : List UInt8} (hread : files.read place = .ok content) :
    files.isFile place = .ok true := by
  rw [Files.Tree.isFile, hread]

/-- Only that a text is not YAML is told. -/
theorem report?_ofFailure_eq_none_iff [Validator] {failure : Yaml.Failure} :
    (LoadError.ofFailure path failure).report? = none ↔ ∀ text, failure ≠ .malformed text := by
  cases failure <;> simp [LoadError.ofFailure, LoadError.report?]

section

variable [Yaml.Loader]

/-- What the bytes of a file are loaded as. -/
def document (path : String) (content : List UInt8) : Except Yaml.Failure Value :=
  Yaml.Loader.load (Files.Path.ofText path).text content

theorem fileEntries_of_read {content : List UInt8} (hread : files.read (.ofText path) = .ok content) :
    fileEntries files path =
      ((document path content).mapError (.ofFailure path) >>= mappingEntries path) := by
  rw [fileEntries]
  simp only [isFile_of_read hread, hread, document, Except.mapError, Attempt.ok_bind, Bool.not_true]
  rw [if_neg Bool.false_ne_true]
  cases Yaml.Loader.load (Files.Path.ofText path).text content with
  | error failure => rfl
  | ok v => cases v <;> rfl

theorem fileEntries_of_read_eq_error {refusal : Files.Refusal} (hread : files.read (.ofText path) = .error refusal) :
    fileEntries files path =
      .error (if refusal = .nameTooLong then .refused path .nameTooLong else .notFound path) := by
  simp only [fileEntries, Files.Tree.isFile, hread]
  cases refusal <;> rfl

/-- A file that neither options nor a report come of. -/
inductive Unusable (files : Files.Tree) (path : String) : Prop
  | refused (hread : files.read (.ofText path) = .error .nameTooLong)
  | document {content : List UInt8} {failure : Yaml.Failure} (hread : files.read (.ofText path) = .ok content)
      (hdocument : document path content = .error failure) (hfailure : ∀ text, failure ≠ .malformed text)
  | name {content : List UInt8} {entries : List (Value × Value)} (hread : files.read (.ofText path) = .ok content)
      (hdocument : document path content = .ok (.map entries)) (hname : ∃ entry ∈ entries, IsNameless entry.1)

variable [Validator]

theorem unusable_iff : Unusable files path ↔
    Unreported (fileEntries files path) ∨
      ∃ stored, fileEntries files path = .ok stored ∧ ∃ entry ∈ stored, IsNameless entry.1 := by
  constructor
  · intro h
    cases h with
    | refused hread =>
        rw [fileEntries_of_read_eq_error hread, if_pos rfl]
        exact .inl (unreported_error.mpr rfl)
    | document hread hdocument hfailure =>
        rw [fileEntries_of_read hread, hdocument]
        exact .inl (unreported_error.mpr (report?_ofFailure_eq_none_iff.mpr hfailure))
    | name hread hdocument hname =>
        rw [fileEntries_of_read hread, hdocument]
        exact .inr ⟨_, rfl, hname⟩
  · -- The stages of reading, each of which hands on what it has not refused.
    cases hread : files.read (.ofText path) with
    | error refusal =>
        rw [fileEntries_of_read_eq_error hread]
        by_cases hrefusal : refusal = .nameTooLong
        · exact fun _ => .refused (hrefusal ▸ hread)
        · rw [if_neg hrefusal, unreported_error]
          rintro (h | ⟨stored, ⟨⟩, -⟩)
          cases h
    | ok content =>
        rw [fileEntries_of_read hread, unreported_bind]
        rintro ((⟨_, herror, hreport⟩ | ⟨v, -, hmapping⟩) | ⟨stored, hstored, hname⟩)
        · obtain ⟨failure, hdocument, rfl⟩ := Attempt.mapError_eq_error_iff.mp herror
          exact .document hread hdocument (report?_ofFailure_eq_none_iff.mp hreport)
        · exact absurd hmapping not_unreported_mappingEntries
        · obtain ⟨v, hdocument, hmapping⟩ := Attempt.bind_eq_ok_iff.mp hstored
          obtain rfl | rfl := of_mappingEntries_eq_ok hmapping
          · exact .name hread (Attempt.mapError_eq_ok_iff.mp hdocument) hname
          · obtain ⟨_, ⟨⟩, _⟩ := hname

/-- What a run takes from a file fails without a report if the file is unusable, and else not. -/
theorem unreported_load_iff {path : Option String} {given : List (String × Value)} :
    Unreported (load files path given) ↔ ∃ p ∈ path, p ≠ "" ∧ Unusable files p := by
  have hoptions (named : List (String × Value)) : ¬ Unreported ((ofEntries named).mapError .options) := by
    rintro ⟨e, herror, hreport⟩
    obtain ⟨cause, -, rfl⟩ := Attempt.mapError_eq_error_iff.mp herror
    cases hreport
  have hload : Unreported (load files path given) ↔ Unreported (storedEntries files path) ∨
      ∃ stored, storedEntries files path = .ok stored ∧ ∃ entry ∈ stored, IsNameless entry.1 := by
    simp only [load_eq_bind, unreported_bind, hoptions, and_false, exists_false, or_false, unreported_namedEntries,
      exists_isNameless_foldl]
  have hpath : (∃ p ∈ path, p ≠ "" ∧ Unusable files p) ↔ ∃ p ∈ path.filter (· != ""), Unusable files p := by
    simp [Option.filter_eq_some_iff, and_assoc]
  rw [hload, hpath, storedEntries]
  cases path.filter (· != "") with
  | none => simp [not_unreported_ok]
  | some p => simp [unusable_iff]

/-- A run has options when its file has entries under texts and setters take them with those given over them. -/
theorem load_eq_ok_iff {path : Option String} {given : List (String × Value)} {o : Options} :
    load files path given = .ok o ↔
      ∃ entries, storedEntries files path = .ok (texted entries) ∧ ofEntries (merge entries given) = .ok o := by
  constructor
  · intro h
    obtain ⟨stored, hstored, hnamed⟩ := Attempt.bind_eq_ok_iff.mp ((load_eq_bind files path given).symm.trans h)
    obtain ⟨merged, hmerged, -⟩ := Attempt.bind_eq_ok_iff.mp hnamed
    cases hentries : namedEntries stored with
    | ok entries =>
        rw [namedEntries_eq_ok_iff.mp hentries] at hstored
        rw [load_of_stored hstored] at h
        exact ⟨entries, hstored, Attempt.mapError_eq_ok_iff.mp h⟩
    | error e =>
        obtain ⟨entry, hentry, hname, -⟩ := exists_of_namedEntries_eq_error hentries
        have hfails := unreported_namedEntries.mpr ((exists_isNameless_foldl given).mpr ⟨entry, hentry, hname⟩)
        rw [hmerged] at hfails
        exact absurd hfails not_unreported_ok
  · rintro ⟨entries, hstored, hentries⟩
    rw [load_of_stored hstored, hentries]
    rfl

omit [Yaml.Loader] in
/-- Options that their setters made of entries, each of them of the one of its name. -/
structure Validated (entries : List (String × Value)) (o : Options) : Prop where
  known : Known entries
  settled : ∀ s ∈ setters, Settles entries s {} o
  package : Go.isPackageName o.package = true

omit [Yaml.Loader] in
theorem validated_of_ofEntries {entries : List (String × Value)} {o : Options} (h : ofEntries entries = .ok o) :
    Validated entries o where
  known := unknownEntries_eq_nil_iff.mp (ofEntries_eq_ok_iff.mp h).2
  settled := settles_of_ofEntries h
  package := (isPackageName_of_ofEntries h).1

end

end GormModels.Options
