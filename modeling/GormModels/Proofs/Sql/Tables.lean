import Mathlib.Data.List.ReduceOption
import GormModels.Proofs.Sql.Attribute

/-!
# The tables of a text

The statements of a text are taken one after another: one that creates a table declares it, a command that would
create one is an error, and any other declares nothing. So a text declares what its statements define, in their order.
-/

namespace GormModels.Sql

variable {s : Statement} {d : TableDefinition} {entry : Option TableDeclaration} {e : SqlError}

/-! ### Single statements -/

/-- The table that a statement defines. -/
def Statement.definition? : Statement → Option TableDefinition
  | .create kind definition => if Text.upperText kind == "TABLE" then some definition else none
  | .command .. | .other => none

/-- A command that would create a table. -/
def Statement.WouldCreate (s : Statement) : Prop :=
  ∃ verb body sql, s = .command verb body sql ∧ Text.upperText verb = "CREATE" ∧ namesTable body.toList = true

theorem declare_of_definition (h : s.definition? = some d) : s.declare = some <$> d.declare := by
  cases s with
  | create kind definition =>
      rw [Statement.definition?] at h
      split at h
      case isTrue hkind =>
          cases h
          rw [Statement.declare, if_pos hkind]
      case isFalse => cases h
  | command | other => cases h

theorem declare_of_wouldCreate (h : s.WouldCreate) : ∃ near, s.declare = .error (.unsupportedTable near) := by
  obtain ⟨verb, body, sql, rfl, hverb, hbody⟩ := h
  exact ⟨excerpt sql.toList, by simp [Statement.declare, hverb, hbody]⟩

theorem declare_of_nothing (hdefinition : s.definition? = none) (hcommand : ¬s.WouldCreate) :
    s.declare = .ok none := by
  cases s with
  | create kind definition =>
      rw [Statement.definition?] at hdefinition
      split at hdefinition
      case isTrue => cases hdefinition
      case isFalse hkind => rw [Statement.declare, if_neg hkind]
  | command verb body sql =>
      have hnot : ¬(Text.upperText verb == "CREATE" && namesTable body.toList) = true := by
        simpa [Statement.WouldCreate] using hcommand
      rw [Statement.declare, if_neg hnot]
  | other => rfl

theorem declare_eq_ok_iff : s.declare = .ok entry ↔
    ¬s.WouldCreate ∧ Option.Rel (fun d t => d.declare = .ok t) s.definition? entry := by
  cases hdefinition : s.definition? with
  | some d =>
      have hnot : ¬s.WouldCreate := by
        rintro ⟨verb, body, sql, rfl, -⟩
        cases hdefinition
      rw [declare_of_definition hdefinition, Attempt.map_eq_ok_iff, and_iff_right hnot]
      constructor
      · rintro ⟨t, ht, rfl⟩
        exact .some ht
      · rintro ⟨ht⟩
        exact ⟨_, ht, rfl⟩
  | none =>
      by_cases hcommand : s.WouldCreate
      · obtain ⟨near, herror⟩ := declare_of_wouldCreate hcommand
        simp [herror, hcommand]
      · rw [declare_of_nothing hdefinition hcommand, and_iff_right hcommand]
        constructor
        · rintro ⟨⟩
          exact .none
        · rintro ⟨⟩
          rfl

theorem cases_of_declare_eq_error (h : s.declare = .error e) :
    (s.WouldCreate ∧ ∃ near, e = .unsupportedTable near) ∨ ∃ d, s.definition? = some d ∧ d.declare = .error e := by
  cases hdefinition : s.definition? with
  | some d =>
      rw [declare_of_definition hdefinition, Attempt.map_eq_error_iff] at h
      exact .inr ⟨d, rfl, h⟩
  | none =>
      by_cases hcommand : s.WouldCreate
      · obtain ⟨near, hnear⟩ := declare_of_wouldCreate hcommand
        exact .inl ⟨hcommand, near, Except.error.inj (h.symm.trans hnear)⟩
      · rw [declare_of_nothing hdefinition hcommand] at h
        cases h

/-- An error of a statement is reported as one of SQL unless the type of a column has no name. -/
theorem report_of_declare (h : s.declare = .error e) :
    (∃ r, e.report? = some r ∧ r.kind = .sql) ∨ ∃ column table, e = .namelessType column table := by
  obtain ⟨-, near, rfl⟩ | ⟨d, -, herror⟩ := cases_of_declare_eq_error h
  · exact .inl ⟨_, rfl, rfl⟩
  · obtain ⟨before, c, after, -, -, hfault⟩ := declare_definition_eq_error_iff.mp herror
    exact hfault.report

/-! ### Texts -/

section

variable [Dialect] {text : String} {statements : List Statement} {tables : List TableDeclaration}

theorem checkItems_eq_ok_iff : checkItems text = .ok () ↔
    ∃ tokens, Dialect.tokenize text = .ok tokens ∧ emptyItem? tokens = none := by
  rw [checkItems]
  cases Dialect.tokenize text with
  | error told => simp
  | ok tokens => cases hitem : emptyItem? tokens <;> simp [hitem]

theorem statementsIn_eq_ok_iff : statementsIn text = .ok statements ↔
    (∃ tokens, Dialect.tokenize text = .ok tokens ∧ emptyItem? tokens = none) ∧
      Dialect.parse text = .ok statements := by
  rw [statementsIn, Attempt.bind_eq_ok_iff, ← checkItems_eq_ok_iff]
  simp only [Attempt.mapError_eq_ok_iff]
  exact ⟨fun ⟨_, hchecked, hparse⟩ => ⟨hchecked, hparse⟩, fun ⟨hchecked, hparse⟩ => ⟨(), hchecked, hparse⟩⟩

theorem parseTables_eq (text : String) :
    parseTables text = statementsIn text >>= fun statements =>
      (·.filterMap id) <$> statements.mapM Statement.declare := by
  rw [parseTables]
  refine bind_congr fun statements => ?_
  rw [bind_pure_comp]

theorem parseTables_eq_ok_iff : parseTables text = .ok tables ↔ ∃ statements entries,
    statementsIn text = .ok statements ∧
      List.Forall₂ (fun s entry => s.declare = .ok entry) statements entries ∧ tables = entries.reduceOption := by
  simp only [parseTables_eq, Attempt.bind_eq_ok_iff, Attempt.map_eq_ok_iff, Attempt.mapM_eq_ok_iff]
  constructor
  · rintro ⟨statements, hstatements, entries, hentries, rfl⟩
    exact ⟨statements, entries, hstatements, hentries, rfl⟩
  · rintro ⟨statements, entries, hstatements, hentries, rfl⟩
    exact ⟨statements, hstatements, entries, hentries, rfl⟩

theorem parseTables_eq_error_iff : parseTables text = .error e ↔ statementsIn text = .error e ∨
    ∃ before s after, statementsIn text = .ok (before ++ s :: after) ∧
      (∀ b ∈ before, ∃ entry, b.declare = .ok entry) ∧ s.declare = .error e := by
  rw [parseTables_eq, Attempt.bind_eq_error_iff]
  refine or_congr_right ?_
  simp only [Attempt.map_eq_error_iff, Attempt.mapM_eq_error_iff]
  constructor
  · rintro ⟨statements, hstatements, before, s, after, rfl, hbefore, herror⟩
    exact ⟨before, s, after, hstatements, hbefore, herror⟩
  · rintro ⟨before, s, after, hstatements, hbefore, herror⟩
    exact ⟨_, hstatements, before, s, after, rfl, hbefore, herror⟩

/-- The tables of a text are those that its statements define, in their order. -/
theorem definitions_of_parseTables (h : parseTables text = .ok tables) : ∃ statements,
    statementsIn text = .ok statements ∧
      List.Forall₂ (fun d t => d.declare = .ok t) (statements.filterMap Statement.definition?) tables := by
  obtain ⟨statements, entries, hstatements, hentries, rfl⟩ := parseTables_eq_ok_iff.mp h
  have hrelated (s : Statement) (entry : Option TableDeclaration) (h : s.declare = .ok entry) :
      Option.Rel (fun d t => d.declare = .ok t) s.definition? (id entry) := (declare_eq_ok_iff.mp h).2
  exact ⟨statements, hstatements, List.rel_filterMap hrelated hentries⟩

end

end GormModels.Sql
