import GormModels.Schema.Build
import GormModels.Proofs.Attempt

/-!
# Which tables make a schema

A table is refused for a fault of its own, or at its first column that contradicts itself or has a type
parameter that looks like a number and cannot be read as one. None of this depends on the options.
-/

namespace GormModels

open Text

/-! ### Numbers in type parameters -/

/-- A parameter that consists of digits and is no number: a digit of it is not decimal, a separator control
stands beside the digits, or they are too many. -/
structure Unreadable (param : String) : Prop where
  nonempty : trim param.toList ≠ []
  digits : ∀ c ∈ trim param.toList, isDigit c = true
  cause : (∃ c ∈ trim param.toList, isDecimal c = false) ∨
    (∃ c ∈ param.toList, 28 ≤ c.toNat ∧ c.toNat ≤ 31) ∨ maxNumeralLength < (trim param.toList).length

theorem readCount_eq_error_iff {param : String} {n : BadNumeral} :
    readCount param = .error n ↔ Unreadable param ∧ n = ⟨param⟩ := by
  unfold readCount decimalNumber?
  dsimp only
  by_cases hnonempty : trim param.toList = []
  · have hreadable : ¬Unreadable param := fun h => h.nonempty hnonempty
    simp [hnonempty, hreadable]
  by_cases hdigits : ∀ c ∈ trim param.toList, isDigit c = true
  · have hguard : ((trim param.toList).isEmpty || !(trim param.toList).all isDigit) = false := by
      simp [hnonempty, List.all_eq_true.mpr hdigits]
    rw [if_neg (by simp [hguard])]
    have hunreadable : Unreadable param ↔ (∃ c ∈ trim param.toList, isDecimal c = false) ∨
        (∃ c ∈ param.toList, 28 ≤ c.toNat ∧ c.toNat ≤ 31) ∨ maxNumeralLength < (trim param.toList).length :=
      ⟨Unreadable.cause, fun hcause => ⟨hnonempty, hdigits, hcause⟩⟩
    rw [hunreadable]
    by_cases hdecimal : (trim param.toList).all isDecimal
    · have hall : ¬∃ c ∈ trim param.toList, isDecimal c = false := by
        simpa using List.all_eq_true.mp hdecimal
      rw [if_pos ⟨hnonempty, hdecimal⟩]
      simp only [hall, false_or]
      split
      case isTrue hcause =>
          simp only [Bool.or_eq_true, List.any_eq_true, Bool.and_eq_true, decide_eq_true_eq] at hcause
          rw [Except.error.injEq, and_iff_right hcause, eq_comm]
      case isFalse hcause =>
          simp only [Bool.or_eq_true, List.any_eq_true, Bool.and_eq_true, decide_eq_true_eq] at hcause
          simp [hcause]
    · have hsome : ∃ c ∈ trim param.toList, isDecimal c = false := by simpa using hdecimal
      rw [if_neg (by simp [hdecimal]), Except.error.injEq, and_iff_right (.inl hsome), eq_comm]
  · have hreadable : ¬Unreadable param := fun h => hdigits h.digits
    have hguard : ((trim param.toList).isEmpty || !(trim param.toList).all isDigit) = true := by
      simpa using Or.inr hdigits
    rw [if_pos hguard]
    simp [hreadable]

theorem readCount_succeeds_iff {param : String} :
    (∃ count, readCount param = .ok count) ↔ ¬Unreadable param := by
  cases hread : readCount param with
  | error n => simp [(readCount_eq_error_iff.mp hread).1]
  | ok count =>
      have hreadable : ¬Unreadable param := by
        intro h
        have herror := readCount_eq_error_iff.mpr ⟨h, rfl⟩
        rw [hread] at herror
        cases herror
      simp [hreadable]

/-! ### Columns -/

/-- The parameters of a column's type that are read as numbers. -/
def ColumnDeclaration.counts (c : ColumnDeclaration) : List String :=
  if precisionTypes.contains (stripUnsigned c.typeName).1 then c.typeParams.take 2
  else if lengthTypes.contains (stripUnsigned c.typeName).1 then c.typeParams.take 1
  else []

/-- Why a table's column is refused. -/
inductive ColumnRefused (t : TableDeclaration) (c : ColumnDeclaration) : BuildError → Prop
  | contradiction {what : Contradiction}
      (hwhat : c.contradiction? (t.primaryKey.contains c.name) = some what) :
      ColumnRefused t c (.invalid (.contradiction t.name c.name what))
  | count {before after : List String} {param : String}
      (hsound : c.contradiction? (t.primaryKey.contains c.name) = none)
      (hcounts : c.counts = before ++ param :: after) (hbefore : ∀ b ∈ before, ¬Unreadable b)
      (hparam : Unreadable param) : ColumnRefused t c (.numeral ⟨param⟩)

/-- A table's column does not contradict itself, and its numbers can be read. -/
structure Buildable (t : TableDeclaration) (c : ColumnDeclaration) : Prop where
  sound : c.contradiction? (t.primaryKey.contains c.name) = none
  counts : ∀ param ∈ c.counts, ¬Unreadable param

variable {options : Options} {t : TableDeclaration} {c : ColumnDeclaration} {context : TableContext}
  {e : BuildError}

/-- A column that does not contradict itself is refused as soon as one of its numbers cannot be read. -/
theorem build_column_eq_error_iff_counts
    (hsound : c.contradiction? (context.primaryKey.contains c.name) = none) :
    c.build options context = .error e ↔ ∃ n, c.counts.mapM readCount = .error n ∧ e = .numeral n := by
  unfold ColumnDeclaration.build ColumnDeclaration.counts
  dsimp only
  rw [hsound]
  dsimp only
  by_cases hprecise : precisionTypes.contains (stripUnsigned c.typeName).1 = true
  · simp only [hprecise, if_true, Bool.not_true, Bool.false_and]
    rcases c.typeParams with _ | ⟨first, _ | ⟨second, rest⟩⟩
    · simp [countAt, bind, Except.bind, pure, Except.pure, Except.mapError]
    · cases hfirst : readCount first <;>
        simp [countAt, bind, Except.bind, pure, Except.pure, Except.mapError, hfirst, eq_comm]
    · cases hfirst : readCount first <;> cases hsecond : readCount second <;>
        simp [countAt, bind, Except.bind, pure, Except.pure, Except.mapError, hfirst, hsecond, eq_comm]
  · simp only [Bool.not_eq_true] at hprecise
    simp only [hprecise, Bool.not_false, Bool.true_and]
    by_cases hlength : lengthTypes.contains (stripUnsigned c.typeName).1 = true
    · simp only [hlength, if_true]
      rcases c.typeParams with _ | ⟨first, rest⟩
      · simp [countAt, bind, Except.bind, pure, Except.pure, Except.mapError]
      · cases hfirst : readCount first <;>
          simp [countAt, bind, Except.bind, pure, Except.pure, Except.mapError, hfirst, eq_comm]
    · simp only [Bool.not_eq_true] at hlength
      simp only [hlength, Bool.false_eq_true, if_false]
      simp [bind, Except.bind, pure, Except.pure]

theorem mapM_readCount_eq_error_iff {params : List String} {n : BadNumeral} :
    params.mapM readCount = .error n ↔ ∃ before param after, params = before ++ param :: after ∧
      (∀ b ∈ before, ¬Unreadable b) ∧ Unreadable param ∧ n = ⟨param⟩ := by
  simp only [Attempt.mapM_eq_error_iff, readCount_succeeds_iff, readCount_eq_error_iff]

/-- The columns of a table are built with its name and its primary key. -/
theorem build_column_eq_error_iff (htable : context.table = t.name)
    (hprimary : context.primaryKey = t.primaryKey) :
    c.build options context = .error e ↔ ColumnRefused t c e := by
  cases hwhat : c.contradiction? (t.primaryKey.contains c.name) with
  | some what =>
      have hbuild : c.build options context = .error (.invalid (.contradiction t.name c.name what)) := by
        unfold ColumnDeclaration.build
        dsimp only
        rw [hprimary, hwhat, htable]
      rw [hbuild]
      constructor
      · rintro ⟨⟩
        exact .contradiction hwhat
      · rintro (hother | hsound)
        · rw [hwhat] at hother
          cases hother
          rfl
        · rw [hwhat] at hsound
          cases hsound
  | none =>
      rw [build_column_eq_error_iff_counts (by rw [hprimary, hwhat])]
      simp only [mapM_readCount_eq_error_iff]
      constructor
      · rintro ⟨n, ⟨before, param, after, hcounts, hbefore, hparam, rfl⟩, rfl⟩
        exact .count hwhat hcounts hbefore hparam
      · rintro (hother | ⟨-, hcounts, hbefore, hparam⟩)
        · rw [hwhat] at hother
          cases hother
        · exact ⟨_, ⟨_, _, _, hcounts, hbefore, hparam, rfl⟩, rfl⟩

theorem buildable_or_refused (t : TableDeclaration) (c : ColumnDeclaration) :
    Buildable t c ∨ ∃ e, ColumnRefused t c e := by
  cases hwhat : c.contradiction? (t.primaryKey.contains c.name) with
  | some what => exact .inr ⟨_, .contradiction hwhat⟩
  | none =>
      cases hread : c.counts.mapM readCount with
      | error n =>
          obtain ⟨before, param, after, hcounts, hbefore, hparam, -⟩ := mapM_readCount_eq_error_iff.mp hread
          exact .inr ⟨_, .count hwhat hcounts hbefore hparam⟩
      | ok counts =>
          refine .inl ⟨hwhat, fun param hparam => ?_⟩
          have hcounts := Attempt.mapM_succeeds_iff.mp ⟨counts, hread⟩
          exact readCount_succeeds_iff.mp (hcounts param hparam)

theorem Buildable.not_refused (h : Buildable t c) : ¬ColumnRefused t c e := by
  rintro (hwhat | ⟨-, hcounts, -, hparam⟩)
  · rw [h.sound] at hwhat
    cases hwhat
  · exact h.counts _ (by simp [hcounts]) hparam

theorem build_column_succeeds_iff (htable : context.table = t.name)
    (hprimary : context.primaryKey = t.primaryKey) :
    (∃ column, c.build options context = .ok column) ↔ Buildable t c := by
  cases hbuild : c.build options context with
  | error e =>
      have hrefused := (build_column_eq_error_iff htable hprimary).mp hbuild
      have hnot : ¬Buildable t c := fun h => h.not_refused hrefused
      simp [hnot]
  | ok column =>
      obtain hsound | ⟨e, hrefused⟩ := buildable_or_refused t c
      · simp [hsound]
      · rw [(build_column_eq_error_iff htable hprimary).mpr hrefused] at hbuild
        cases hbuild

/-! ### Tables -/

/-- Why a table is refused: for a fault of its own, or at its first column that is. -/
inductive TableRefused (t : TableDeclaration) : BuildError → Prop
  | table {cause : SchemaError} (hcause : t.error? = some cause) : TableRefused t (.invalid cause)
  | column {before after : List ColumnDeclaration} {c : ColumnDeclaration} {e : BuildError}
      (hsound : t.error? = none) (hcolumns : t.columns = before ++ c :: after)
      (hbefore : ∀ b ∈ before, Buildable t b) (hrefused : ColumnRefused t c e) : TableRefused t e

/-- A table and all its columns make a schema. -/
structure Sound (t : TableDeclaration) : Prop where
  sound : t.error? = none
  columns : ∀ c ∈ t.columns, Buildable t c

/-- A table without a fault of its own is its columns put together. -/
theorem build_table_of_sound (options : Options) (hsound : t.error? = none) :
    ∃ context, context.table = t.name ∧ context.primaryKey = t.primaryKey ∧
      ∃ finish, t.build options = finish <$> t.columns.mapM (ColumnDeclaration.build options context) := by
  unfold TableDeclaration.build
  rw [hsound]
  exact ⟨_, rfl, rfl, _, bind_pure_comp _ _⟩

theorem not_sound_of_error {cause : SchemaError} (hcause : t.error? = some cause) : ¬Sound t := by
  intro h
  rw [h.sound] at hcause
  cases hcause

theorem build_table_of_error {cause : SchemaError} (hcause : t.error? = some cause) :
    t.build options = .error (.invalid cause) := by
  unfold TableDeclaration.build
  rw [hcause]

theorem build_table_eq_error_iff : t.build options = .error e ↔ TableRefused t e := by
  cases hcause : t.error? with
  | some cause =>
      rw [build_table_of_error hcause]
      constructor
      · rintro ⟨⟩
        exact .table hcause
      · rintro (hother | hsound)
        · rw [hcause] at hother
          cases hother
          rfl
        · rw [hcause] at hsound
          cases hsound
  | none =>
      obtain ⟨context, htable, hprimary, finish, hbuild⟩ := build_table_of_sound options hcause
      rw [hbuild, Attempt.map_eq_error_iff, Attempt.mapM_eq_error_iff]
      simp only [build_column_eq_error_iff htable hprimary, build_column_succeeds_iff htable hprimary]
      constructor
      · rintro ⟨before, c, after, hcolumns, hbefore, hrefused⟩
        exact .column hcause hcolumns hbefore hrefused
      · rintro (hother | ⟨-, hcolumns, hbefore, hrefused⟩)
        · rw [hcause] at hother
          cases hother
        · exact ⟨_, _, _, hcolumns, hbefore, hrefused⟩

theorem build_table_succeeds_iff : (∃ table, t.build options = .ok table) ↔ Sound t := by
  cases hcause : t.error? with
  | some cause => simp [build_table_of_error hcause, not_sound_of_error hcause]
  | none =>
      obtain ⟨context, htable, hprimary, finish, hbuild⟩ := build_table_of_sound options hcause
      simp only [hbuild, Attempt.map_eq_ok_iff]
      constructor
      · rintro ⟨table, columns, hcolumns, -⟩
        refine ⟨hcause, fun c hc => ?_⟩
        have hbuilt := Attempt.mapM_succeeds_iff.mp ⟨columns, hcolumns⟩
        exact (build_column_succeeds_iff htable hprimary).mp (hbuilt c hc)
      · intro hsound
        have hsucceeds : ∀ c ∈ t.columns, ∃ column, c.build options context = .ok column := fun c hc =>
          (build_column_succeeds_iff htable hprimary).mpr (hsound.columns c hc)
        obtain ⟨columns, hcolumns⟩ := Attempt.mapM_succeeds_iff.mpr hsucceeds
        exact ⟨_, columns, hcolumns, rfl⟩

/-- Tables are built up to the first that is refused. -/
theorem buildTables_eq_error_iff {tables : List TableDeclaration} :
    buildTables options tables = .error e ↔ ∃ before t after, tables = before ++ t :: after ∧
      (∀ b ∈ before, Sound b) ∧ TableRefused t e := by
  simp only [buildTables, Attempt.mapM_eq_error_iff, build_table_succeeds_iff, build_table_eq_error_iff]

end GormModels
