import GormModels.Proofs.Schema.Keys

/-!
# Which declarations are accepted

A table should make a schema if it has columns, all of different names, if its keys are made of columns that it
declares, and if no column contradicts itself; any other should be reported on. It is so unless the numbers
of types come in between: a parameter that passes for a number and is none ends the table where its column
stands, before a later column is looked at.
-/

namespace GormModels

open Text

variable {options : Options} {t : TableDeclaration} {c : ColumnDeclaration}

/-! ### What is asked of a declaration -/

/-- The table has a column and declares none twice, and its keys are made of columns that it declares. -/
structure WellKeyed (t : TableDeclaration) : Prop where
  nonempty : t.columns ≠ []
  distinct : (t.columns.map (·.name)).Nodup
  keys : ∀ name ∈ t.keyColumns, name ∈ t.columns.map (·.name)

/-- What a table's column says of nulls can hold all at once. -/
structure Consistent (t : TableDeclaration) (c : ColumnDeclaration) : Prop where
  notNull_default : ¬(c.notNull = true ∧ c.defaultIsNull = true)
  notNull_null : ¬(c.notNull = true ∧ c.explicitNull = true)
  null_primaryKey : ¬(c.explicitNull = true ∧ c.name ∈ t.primaryKey)
  null_serial : ¬(c.explicitNull = true ∧ c.typeName = serialType)

structure Admissible (t : TableDeclaration) : Prop extends WellKeyed t where
  consistent : ∀ c ∈ t.columns, Consistent t c

theorem contradiction?_eq_none_iff :
    c.contradiction? (t.primaryKey.contains c.name) = none ↔ Consistent t c := by
  have hconsistent : Consistent t c ↔ ¬(c.notNull = true ∧ c.defaultIsNull = true) ∧
      ¬(c.notNull = true ∧ c.explicitNull = true) ∧ ¬(c.explicitNull = true ∧ c.name ∈ t.primaryKey) ∧
      ¬(c.explicitNull = true ∧ c.typeName = serialType) :=
    ⟨fun ⟨h₁, h₂, h₃, h₄⟩ => ⟨h₁, h₂, h₃, h₄⟩, fun ⟨h₁, h₂, h₃, h₄⟩ => ⟨h₁, h₂, h₃, h₄⟩⟩
  rw [hconsistent, ColumnDeclaration.contradiction?]
  simp only [Bool.and_eq_true, List.contains_eq_mem, decide_eq_true_eq, beq_iff_eq]
  split_ifs with h₁ h₂ h₃ h₄ <;> simp [*]

theorem firstRepeated_eq_none_iff {seen names : List String} :
    firstRepeated seen names = none ↔ names.Nodup ∧ ∀ name ∈ names, name ∉ seen := by
  induction names generalizing seen with
  | nil => simp [firstRepeated]
  | cons name names ih =>
      rw [firstRepeated]
      by_cases hseen : name ∈ seen
      · simp [hseen]
      · rw [if_neg (by simpa using hseen), ih]
        simp only [List.nodup_cons, List.mem_cons, not_or, forall_eq_or_imp]
        constructor
        · rintro ⟨hnodup, hrest⟩
          exact ⟨⟨fun hname => (hrest name hname).1 rfl, hnodup⟩, hseen, fun other hother => (hrest other hother).2⟩
        · rintro ⟨⟨hname, hnodup⟩, -, hrest⟩
          exact ⟨hnodup, fun other hother => ⟨fun heq => hname (heq ▸ hother), hrest other hother⟩⟩

theorem keyColumns_eq : t.keyColumns = t.keys.flatMap (·.2.columns) := by
  simp [TableDeclaration.keyColumns, TableDeclaration.keys, List.flatMap_map]

theorem unknownKeyColumn?_eq_none_iff :
    t.unknownKeyColumn? = none ↔ ∀ name ∈ t.keyColumns, name ∈ t.columns.map (·.name) := by
  rw [keyColumns_eq, List.forall_mem_flatMap]
  simp [TableDeclaration.unknownKeyColumn?]

theorem error?_eq_none_iff : t.error? = none ↔ WellKeyed t := by
  have hdistinct : firstRepeated [] (t.columns.map (·.name)) = none ↔ (t.columns.map (·.name)).Nodup := by
    simp [firstRepeated_eq_none_iff]
  rw [TableDeclaration.error?]
  split_ifs with hempty
  · have hnone : ¬WellKeyed t := fun h => h.nonempty (List.isEmpty_iff.mp hempty)
    simp [hnone]
  · cases hrepeat : firstRepeated [] (t.columns.map (·.name)) with
    | some column =>
        have hnone : ¬WellKeyed t := fun h => by simp [hdistinct.mpr h.distinct] at hrepeat
        simp [hnone]
    | none =>
        simp only [unknownKeyColumn?_eq_none_iff]
        exact ⟨fun hkeys => ⟨by simpa using hempty, hdistinct.mp hrepeat, hkeys⟩, WellKeyed.keys⟩

/-! ### What ends a table too early -/

/-- All columns up to some place are consistent and have numbers that can be read, and the consistent column
there has one that cannot. -/
structure Misread (t : TableDeclaration) : Prop where
  keyed : WellKeyed t
  column : ∃ before c after, t.columns = before ++ c :: after ∧
    (∀ b ∈ before, Consistent t b ∧ ∀ param ∈ b.counts, ¬Unreadable param) ∧
    Consistent t c ∧ ∃ param ∈ c.counts, Unreadable param

theorem buildable_iff : Buildable t c ↔ Consistent t c ∧ ∀ param ∈ c.counts, ¬Unreadable param :=
  ⟨fun h => ⟨contradiction?_eq_none_iff.mp h.sound, h.counts⟩,
    fun h => ⟨contradiction?_eq_none_iff.mpr h.1, h.2⟩⟩

theorem sound_iff : Sound t ↔ Admissible t ∧ ∀ c ∈ t.columns, ∀ param ∈ c.counts, ¬Unreadable param := by
  constructor
  · rintro ⟨hsound, hcolumns⟩
    have hbuildable := fun c hc => buildable_iff.mp (hcolumns c hc)
    exact ⟨⟨error?_eq_none_iff.mp hsound, fun c hc => (hbuildable c hc).1⟩, fun c hc => (hbuildable c hc).2⟩
  · rintro ⟨⟨hkeyed, hconsistent⟩, hcounts⟩
    exact ⟨error?_eq_none_iff.mpr hkeyed, fun c hc => buildable_iff.mpr ⟨hconsistent c hc, hcounts c hc⟩⟩

theorem misread_iff : Misread t ↔ ∃ n, TableRefused t (.numeral n) := by
  constructor
  · rintro ⟨hkeyed, before, c, after, hcolumns, hbefore, hconsistent, param, hparam, hunreadable⟩
    have hsound := contradiction?_eq_none_iff.mpr hconsistent
    obtain hbuildable | ⟨e, hrefused⟩ := buildable_or_refused t c
    · exact absurd hunreadable (hbuildable.counts param hparam)
    · cases hrefused with
      | contradiction hwhat =>
          rw [hsound] at hwhat
          cases hwhat
      | count hsound hcounts hfirst hread =>
          exact ⟨_, .column (error?_eq_none_iff.mpr hkeyed) hcolumns
            (fun b hb => buildable_iff.mpr (hbefore b hb)) (.count hsound hcounts hfirst hread)⟩
  · rintro ⟨n, hrefused⟩
    cases hrefused with
    | column hsound hcolumns hbefore hrefused =>
        cases hrefused with
        | count hconsistent hcounts hfirst hread =>
            exact ⟨error?_eq_none_iff.mp hsound, _, _, _, hcolumns, fun b hb => buildable_iff.mp (hbefore b hb),
              contradiction?_eq_none_iff.mp hconsistent, _, by simp [hcounts], hread⟩

theorem build_of_misread (h : Misread t) : ∃ n, t.build options = .error (.numeral n) := by
  obtain ⟨n, hrefused⟩ := misread_iff.mp h
  exact ⟨n, build_table_eq_error_iff.mpr hrefused⟩

theorem not_admissible_of_invalid {cause : SchemaError} (hrefused : TableRefused t (.invalid cause)) :
    ¬Admissible t := by
  intro h
  cases hrefused with
  | table hcause =>
      rw [error?_eq_none_iff.mpr h.toWellKeyed] at hcause
      cases hcause
  | column hsound hcolumns hbefore hrefused =>
      cases hrefused with
      | contradiction hwhat =>
          rw [contradiction?_eq_none_iff.mpr (h.consistent _ (by simp [hcolumns]))] at hwhat
          cases hwhat

/-! ### Parameters of ASCII characters -/

theorem mem_of_mem_trim {s : List Char} {d : Char} (hd : d ∈ trim s) : d ∈ s := by
  have hleft : d ∈ trimLeft s :=
    List.mem_reverse.mp ((List.dropWhile_sublist _).subset (List.mem_reverse.mp hd))
  exact (List.dropWhile_sublist _).subset hleft

/-- Digits that are told apart from decimal ones lie beyond ASCII, so there are two ways left to be no number. -/
theorem unreadable_ascii_iff {param : String} (hascii : ∀ d ∈ param.toList, d.toNat < 128) :
    Unreadable param ↔ (trim param.toList ≠ [] ∧ ∀ d ∈ trim param.toList, d.isDigit = true) ∧
      ((∃ d ∈ param.toList, 28 ≤ d.toNat ∧ d.toNat ≤ 31) ∨ maxNumeralLength < (trim param.toList).length) := by
  have hdigit : ∀ d ∈ trim param.toList, isDigit d = d.isDigit := fun d hd =>
    if_pos (hascii d (mem_of_mem_trim hd))
  have hdecimal : ∀ d ∈ trim param.toList, isDecimal d = d.isDigit := fun d hd =>
    if_pos (hascii d (mem_of_mem_trim hd))
  constructor
  · rintro ⟨hnonempty, hdigits, hcause⟩
    refine ⟨⟨hnonempty, fun d hd => hdigit d hd ▸ hdigits d hd⟩, hcause.resolve_left ?_⟩
    rintro ⟨d, hd, hother⟩
    rw [hdecimal d hd, ← hdigit d hd, hdigits d hd] at hother
    cases hother
  · rintro ⟨⟨hnonempty, hdigits⟩, hcause⟩
    exact ⟨hnonempty, fun d hd => (hdigit d hd).trans (hdigits d hd), .inr hcause⟩

/-! ### The outcome -/

/-- The table makes a schema if it is admissible, and only then; otherwise it is reported on. -/
structure Judged (options : Options) (t : TableDeclaration) : Prop where
  accepted : (∃ table, t.build options = .ok table) ↔ Admissible t
  reported : ¬Admissible t → ∃ cause, t.build options = .error (.invalid cause)

theorem judged_iff_not_misread : Judged options t ↔ ¬Misread t := by
  rw [misread_iff]
  cases hbuild : t.build options with
  | ok table =>
      have hadmissible : Admissible t := (sound_iff.mp (build_table_succeeds_iff.mp ⟨table, hbuild⟩)).1
      have hnone : ¬∃ n, TableRefused t (.numeral n) := by
        rintro ⟨n, hrefused⟩
        rw [build_table_eq_error_iff.mpr hrefused] at hbuild
        cases hbuild
      exact iff_of_true ⟨iff_of_true ⟨table, hbuild⟩ hadmissible, fun h => absurd hadmissible h⟩ hnone
  | error e =>
      have hrefused := build_table_eq_error_iff.mp hbuild
      have hnone : ¬∃ table, t.build options = .ok table := by simp [hbuild]
      cases e with
      | invalid cause =>
          have hnumeral : ¬∃ n, TableRefused t (.numeral n) := by
            rintro ⟨n, hother⟩
            rw [build_table_eq_error_iff.mpr hother] at hbuild
            cases hbuild
          exact iff_of_true
            ⟨iff_of_false hnone (not_admissible_of_invalid hrefused), fun _ => ⟨cause, hbuild⟩⟩ hnumeral
      | numeral n =>
          refine iff_of_false ?_ (not_not.mpr ⟨n, hrefused⟩)
          rintro ⟨haccepted, hreported⟩
          by_cases hadmissible : Admissible t
          · exact hnone (haccepted.mpr hadmissible)
          · obtain ⟨cause, hcause⟩ := hreported hadmissible
            rw [hbuild] at hcause
            cases hcause

theorem isSchemaOf_of_build_eq_ok {table : Table} (hbuild : t.build options = .ok table) : IsSchemaOf t table := by
  have hadmissible : Admissible t := (sound_iff.mp (build_table_succeeds_iff.mp ⟨table, hbuild⟩)).1
  have hcolumns := isKeyedColumnOf_of_build_table_eq_ok hbuild
  have hnames := map_name_of_isKeyedColumnOf hcolumns
  have hdistinct : (table.columns.map (·.name)).Nodup := hnames ▸ hadmissible.distinct
  obtain ⟨-, -, -, hkeys, -⟩ := exists_context_of_build_table_eq_ok hbuild
  refine ⟨hcolumns, hkeys, fun _ => column?_of_mem hdistinct, fun name hname => ?_⟩
  have hdeclared := hadmissible.keys name hname
  rw [← hnames] at hdeclared
  obtain ⟨column, hcolumn, rfl⟩ := List.mem_map.mp hdeclared
  exact ⟨column, hcolumn, rfl, column?_of_mem hdistinct hcolumn⟩

/-- A table is judged by its declaration exactly if no parameter ends it too early; where one does, nothing is
reported. Of ASCII characters only digits with a separator control, or too many of them, do so. Where the table
makes a schema, columns and keys are kept, names lead to their columns, and the keys tell which columns are
primary, unique and never null. -/
theorem build_outcome (options : Options) (t : TableDeclaration) :
    (Judged options t ↔ ¬Misread t) ∧
    (Misread t → ∃ n, t.build options = .error (.numeral n)) ∧
    (∀ param : String, (∀ d ∈ param.toList, d.toNat < 128) → (Unreadable param ↔
      (trim param.toList ≠ [] ∧ ∀ d ∈ trim param.toList, d.isDigit = true) ∧
        ((∃ d ∈ param.toList, 28 ≤ d.toNat ∧ d.toNat ≤ 31) ∨ maxNumeralLength < (trim param.toList).length))) ∧
    (∀ table, t.build options = .ok table → IsSchemaOf t table) :=
  ⟨judged_iff_not_misread, build_of_misread, fun _ => unreadable_ascii_iff, fun _ => isSchemaOf_of_build_eq_ok⟩

/-- A separator control in the type of the first column, and a second one that contradicts itself. -/
def separatorTable : TableDeclaration :=
  { name := "t"
    columns :=
      [{ name := "a", typeName := "INT", typeText := "INT", typeParams := ["5\x1c"] },
       { name := "b", typeName := "INT", typeText := "INT", notNull := true, defaultIsNull := true }] }

theorem separatorTable_not_judged :
    ¬Admissible separatorTable ∧ separatorTable.build {} = .error (.numeral ⟨"5\x1c"⟩) ∧
      ¬Judged {} separatorTable := by
  have hbuild : separatorTable.build {} = .error (.numeral ⟨"5\x1c"⟩) := by decide +kernel
  have hinadmissible : ¬Admissible separatorTable := fun h =>
    (h.consistent _ (.tail _ (.head _))).notNull_default ⟨rfl, rfl⟩
  refine ⟨hinadmissible, hbuild, fun h => ?_⟩
  obtain ⟨cause, hcause⟩ := h.reported hinadmissible
  rw [hbuild] at hcause
  cases hcause

end GormModels
