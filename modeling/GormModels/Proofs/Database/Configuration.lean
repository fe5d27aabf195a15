import Mathlib.Data.List.Nodup
import Mathlib.Data.List.Perm.Subperm
import GormModels.Database.Configuration
import GormModels.Proofs.Database.SourceFault

/-!
# Configuring a process

A process is configured by the first source name that gives settings. From then on no step changes what is
configured: a source name whose settings agree with those in use is let pass, however it is written, and any
other that gives settings is a conflict.
-/

namespace GormModels.Database

open Text

/-! ### Options by name -/

section

variable {values others : List (String × String)}

theorem map_fst_setValue (name value : String) (values : List (String × String)) :
    (setValue name value values).map Prod.fst =
      if name ∈ values.map Prod.fst then values.map Prod.fst else values.map Prod.fst ++ [name] := by
  induction values with
  | nil => rfl
  | cons entry values ih =>
      obtain ⟨first, v⟩ := entry
      by_cases hfirst : first = name
      · subst hfirst
        simp [setValue]
      · have hmem : name ∈ first :: values.map Prod.fst ↔ name ∈ values.map Prod.fst := by simp [Ne.symm hfirst]
        rw [setValue, if_neg (by simpa using hfirst)]
        simp only [List.map_cons, ih, hmem]
        split <;> rfl

theorem nodup_setValue (name value : String) (hvalues : (values.map Prod.fst).Nodup) :
    ((setValue name value values).map Prod.fst).Nodup := by
  rw [map_fst_setValue]
  split
  case isTrue => exact hvalues
  case isFalse hfresh =>
      rw [← List.concat_eq_append]
      exact hvalues.concat hfresh

theorem nodup_queryValues (query : List Char) : ((queryValues query).map Prod.fst).Nodup := by
  unfold queryValues
  refine List.foldlRecOn (motive := fun values : List (String × String) => (values.map Prod.fst).Nodup) _ _
    List.nodup_nil ?_
  intro values hvalues part _
  split
  · exact nodup_setValue _ _ hvalues
  · exact hvalues

theorem lookup_eq_some_iff_mem (hvalues : (values.map Prod.fst).Nodup) {name value : String} :
    values.lookup name = some value ↔ (name, value) ∈ values := by
  constructor
  · exact Attempt.mem_of_lookup_eq_some
  · intro hmem
    obtain ⟨front, back, rfl⟩ := List.append_of_mem hmem
    refine List.lookup_eq_some_iff.mpr ⟨front, back, rfl, fun entry hentry => bne_iff_ne.mpr ?_⟩
    rw [List.map_append, List.nodup_append'] at hvalues
    obtain ⟨-, -, hapart⟩ := hvalues
    rintro rfl
    exact hapart (List.mem_map_of_mem hentry) List.mem_cons_self

/-- As many values, each of them found under its name among the others, are the same values. -/
theorem lookup_eq_iff (hvalues : (values.map Prod.fst).Nodup) (hothers : (others.map Prod.fst).Nodup) :
    values.length = others.length ∧ (∀ entry ∈ values, others.lookup entry.1 = some entry.2) ↔
      ∀ name, values.lookup name = others.lookup name := by
  have hlookup := @lookup_eq_some_iff_mem values hvalues
  have hlookup' := @lookup_eq_some_iff_mem others hothers
  constructor
  · rintro ⟨hlength, hfound⟩ name
    have hsubset : values ⊆ others := fun entry hentry => hlookup'.mp (hfound entry hentry)
    have hperm : values.Perm others :=
      (List.Nodup.subperm hvalues.of_map hsubset).perm_of_length_le hlength.ge
    ext value
    rw [hlookup, hlookup', hperm.mem_iff]
  · intro hequal
    have hperm : values.Perm others := by
      refine (List.perm_ext_iff_of_nodup hvalues.of_map hothers.of_map).mpr fun entry => ?_
      rw [← hlookup, ← hlookup', hequal]
    exact ⟨hperm.length_eq, fun entry hentry => hequal entry.1 ▸ hlookup.mpr hentry⟩

end

/-! ### Settings that agree -/

/-- The same database, reached in the same way: all parts are the same, and each option has the same value or is
missing in both. -/
structure Settings.Agrees (a b : Settings) : Prop where
  name : a.name = b.name
  user : a.user = b.user
  password : a.password = b.password
  host : a.host = b.host
  port : a.port = b.port
  options : ∀ option, a.options.lookup option = b.options.lookup option

/-- No option of the settings is there twice. -/
def Settings.Distinct (s : Settings) : Prop := (s.options.map Prod.fst).Nodup

theorem same_iff_agrees {a b : Settings} (ha : a.Distinct) (hb : b.Distinct) : a.same b = true ↔ a.Agrees b := by
  have hoptions := lookup_eq_iff ha hb
  simp only [Settings.same, Bool.and_eq_true, beq_iff_eq, List.all_eq_true]
  constructor
  · rintro ⟨⟨⟨⟨⟨⟨hname, huser⟩, hpassword⟩, hhost⟩, hport⟩, hlength⟩, hfound⟩
    exact ⟨hname, huser, hpassword, hhost, hport, hoptions.mp ⟨hlength, hfound⟩⟩
  · rintro ⟨hname, huser, hpassword, hhost, hport, hequal⟩
    obtain ⟨hlength, hfound⟩ := hoptions.mpr hequal
    exact ⟨⟨⟨⟨⟨⟨hname, huser⟩, hpassword⟩, hhost⟩, hport⟩, hlength⟩, hfound⟩

theorem distinct_of_ofUrl {s : List Char} {settings : Settings} (h : ofUrl s = .ok settings) :
    settings.Distinct := by
  rw [ofUrl, Attempt.bind_eq_ok_iff] at h
  obtain ⟨url, -, h⟩ := h
  dsimp only at h
  split at h
  case isTrue => cases h
  case isFalse =>
      obtain ⟨port, -, h⟩ := Attempt.bind_eq_ok_iff.mp h
      cases h
      exact nodup_queryValues url.query

theorem distinct_of_settings? {user password s : List Char} {settings : Settings}
    (h : settings? user password s = some settings) : settings.Distinct := by
  simp only [settings?, Option.bind_eq_bind, Option.bind_eq_some_iff] at h
  obtain ⟨_, -, _, -, h⟩ := h
  cases h
  exact (nodup_queryValues _).sublist (List.filter_sublist.map _)

theorem distinct_of_ofPlain {s : List Char} {settings : Settings} (h : ofPlain s = .ok settings) :
    settings.Distinct := by
  unfold ofPlain at h
  dsimp only at h
  split at h
  case h_1 found hfound =>
      cases h
      rw [Option.orElse_eq_orElse, Option.orElse_eq_or, Option.or_eq_some_iff] at hfound
      obtain hcredentials | ⟨-, hbare⟩ := hfound
      · obtain ⟨_, -, hsettings⟩ := Option.bind_eq_some_iff.mp hcredentials
        exact distinct_of_settings? hsettings
      · exact distinct_of_settings? hbare
  case h_2 => cases h

theorem distinct_of_parseSourceName {source : String} {settings : Settings}
    (h : parseSourceName source = .ok settings) : settings.Distinct := by
  rw [parseSourceName_eq] at h
  split at h
  case isTrue => cases h
  case isFalse =>
      obtain ⟨found, hfound, hnamed⟩ := Attempt.bind_eq_ok_iff.mp h
      obtain rfl : found = settings := by
        unfold named at hnamed
        split at hnamed
        · cases hnamed
        · exact Except.ok.inj hnamed
      split at hfound
      · exact distinct_of_ofUrl hfound
      · exact distinct_of_ofPlain hfound

namespace Configuration

/-! ### Single steps -/

/-- A process in which nothing has been configured. -/
def fresh : Configuration := {}

/-- What has been configured once some settings are in use. -/
def once (settings : Settings) : Configuration :=
  { active := some settings, configured := [settings], setups := 1 }

/-- What becomes of a source name in a process that uses settings. -/
inductive Joins (active : Settings) (source : String) : Outcome → Prop
  | refused {e : SourceNameError} (hparse : parseSourceName source = .error e) : Joins active source (.refused e)
  | done {settings : Settings} (hparse : parseSourceName source = .ok settings) (hagrees : active.Agrees settings) :
      Joins active source .done
  | conflict {settings : Settings} (hparse : parseSourceName source = .ok settings)
      (hdiffers : ¬active.Agrees settings) : Joins active source (.conflict conflictReport)

theorem handle_of_error {source : String} {e : SourceNameError} (hparse : parseSourceName source = .error e)
    (c : Configuration) : c.handle source = (c, .refused e) := by
  rw [handle, hparse]

theorem handle_fresh {source : String} {settings : Settings} (hparse : parseSourceName source = .ok settings) :
    fresh.handle source = (once settings, .done) := by
  rw [handle, hparse]
  rfl

theorem handle_once {active : Settings} (hactive : active.Distinct) (source : String) :
    ∃ outcome, Joins active source outcome ∧ (once active).handle source = (once active, outcome) := by
  cases hparse : parseSourceName source with
  | error e => exact ⟨_, .refused hparse, handle_of_error hparse _⟩
  | ok settings =>
      have hhandle : (once active).handle source =
          (once active, if active.same settings then .done else .conflict conflictReport) := by
        simp only [handle, hparse, use, once]
        cases active.same settings <;> rfl
      have hsame := same_iff_agrees hactive (distinct_of_parseSourceName hparse)
      refine ⟨_, ?_, hhandle⟩
      split
      case isTrue hagrees => exact .done hparse (hsame.mp hagrees)
      case isFalse hdiffers => exact .conflict hparse (mt hsame.mpr hdiffers)

/-! ### Runs -/

theorem run_once {active : Settings} (hactive : active.Distinct) (sources : List String) :
    ∃ outcomes, List.Forall₂ (Joins active) sources outcomes ∧
      run (once active) sources = outcomes.map (once active, ·) := by
  induction sources with
  | nil => exact ⟨[], .nil, rfl⟩
  | cons source rest ih =>
      obtain ⟨outcome, hjoins, hhandle⟩ := handle_once hactive source
      obtain ⟨outcomes, hrest, hrun⟩ := ih
      refine ⟨outcome :: outcomes, .cons hjoins hrest, ?_⟩
      rw [run, hhandle]
      exact congrArg _ hrun

/-- The steps of a process that handles source names: without any that gives settings nothing is configured, and
otherwise the first one is, once and for all. -/
inductive ConfiguresOnce (sources : List String) (steps : List (Configuration × Outcome)) : Prop
  | never {errors : List SourceNameError}
      (hrefused : List.Forall₂ (fun source e => parseSourceName source = .error e) sources errors)
      (hsteps : steps = errors.map fun e => (fresh, .refused e)) : ConfiguresOnce sources steps
  | first {before after : List String} {source : String} {settings : Settings} {errors : List SourceNameError}
      {outcomes : List Outcome} (hsources : sources = before ++ source :: after)
      (hbefore : List.Forall₂ (fun source e => parseSourceName source = .error e) before errors)
      (hfirst : parseSourceName source = .ok settings) (hafter : List.Forall₂ (Joins settings) after outcomes)
      (hsteps : steps = (errors.map fun e => (fresh, .refused e)) ++
        (once settings, .done) :: outcomes.map (once settings, ·)) : ConfiguresOnce sources steps

/-- From a fresh process on, whatever source names it handles, what is configured is that of the first one that
gives settings. Later ones join it or are refused, and no step changes it. -/
theorem run_configuresOnce (sources : List String) : ConfiguresOnce sources (run fresh sources) := by
  induction sources with
  | nil => exact .never .nil rfl
  | cons source rest ih =>
      cases hparse : parseSourceName source with
      | ok settings =>
          obtain ⟨outcomes, hafter, hrun⟩ := run_once (distinct_of_parseSourceName hparse) rest
          have hsources : source :: rest = [] ++ source :: rest := rfl
          refine .first hsources .nil hparse hafter ?_
          rw [run, handle_fresh hparse]
          exact congrArg _ hrun
      | error e =>
          have hrun : run fresh (source :: rest) = (fresh, .refused e) :: run fresh rest := by
            rw [run, handle_of_error hparse]
          cases ih with
          | never hrefused hsteps =>
              refine .never (.cons hparse hrefused) ?_
              rw [hrun, hsteps]
              rfl
          | first hsources hbefore hfirst hafter hsteps =>
              refine .first (congrArg (source :: ·) hsources) (.cons hparse hbefore) hfirst hafter ?_
              rw [hrun, hsteps]
              rfl

example : (run fresh ["shop", "root@tcp(h:1)/shop", "mysql://root@h:1/shop", "root@tcp(h:1)/stock"]).map (·.1.setups) =
    [0, 1, 1, 1] := by
  decide +kernel

end Configuration

end GormModels.Database
