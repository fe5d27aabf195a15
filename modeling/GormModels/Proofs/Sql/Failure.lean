import GormModels.Proofs.Sql.Tables

/-!
# Texts whose failure is not reported

A text is read up to its first fault: in a token, in a list, in a statement, and then in a declaration. Each is
reported as an error of SQL but two: an error that the parser does not promise, and a type without a name.
-/

namespace GormModels.Sql

section

variable {e : SqlError} {s : Statement}

theorem kind_of_report? {r : Report} (h : e.report? = some r) : r.kind = .sql := by
  unfold SqlError.report? at h
  split at h <;> cases h <;> rfl

theorem report?_ofFailure {failure : ParseFailure} :
    (SqlError.ofFailure failure).report? = none ↔ failure = .other := by
  cases failure <;> simp [SqlError.ofFailure, SqlError.report?]

/-- A column's type has no name, and all columns before it can be declared. -/
def HasNamelessColumn (d : TableDefinition) : Prop :=
  ∃ before c after type, d.items = before ++ .column c :: after ∧ (∀ b, .column b ∈ before → Typed b) ∧
    c.type = some type ∧ type.head = .nameless

theorem declare_unreported_iff : (∃ e, s.declare = .error e ∧ e.report? = none) ↔
    ∃ d, s.definition? = some d ∧ HasNamelessColumn d := by
  constructor
  · rintro ⟨e, herror, hreport⟩
    obtain ⟨-, near, rfl⟩ | ⟨d, hdefinition, herror⟩ := cases_of_declare_eq_error herror
    · cases hreport
    · obtain ⟨before, c, after, hitems, hbefore, hfault⟩ := declare_definition_eq_error_iff.mp herror
      cases hfault with
      | untyped htype => cases hreport
      | nameless htype hname =>
          exact ⟨d, hdefinition, before, c, after, _, hitems, hbefore, htype, name?_eq_none_iff.mp hname⟩
  · rintro ⟨d, hdefinition, before, c, after, type, hitems, hbefore, htype, hhead⟩
    have herror := declare_definition_eq_error_iff.mpr
      ⟨before, c, after, hitems, hbefore, ColumnFault.nameless htype (name?_eq_none_iff.mpr hhead)⟩
    refine ⟨.namelessType c.name d.name, ?_, rfl⟩
    rw [declare_of_definition hdefinition, herror]
    rfl

end

section

variable [Dialect] {text : String} {e : SqlError}

/-- What is wrong with single tokens and lists is reported. -/
theorem report?_of_checkItems (h : checkItems text = .error e) : e.report? ≠ none := by
  rw [checkItems] at h
  cases htokens : Dialect.tokenize text with
  | error told =>
      rw [htokens] at h
      cases h
      simp [SqlError.report?]
  | ok tokens =>
      simp only [htokens] at h
      cases hitem : emptyItem? tokens with
      | none =>
          rw [hitem] at h
          cases h
      | some fault =>
          rw [hitem] at h
          cases h
          obtain ⟨part, -, hpart⟩ := List.exists_of_findSome?_eq_some hitem
          obtain ⟨pair, -, rfl⟩ := Option.map_eq_some_iff.mp hpart
          simp [SqlError.report?]

theorem statementsIn_unreported_iff : (∃ e, statementsIn text = .error e ∧ e.report? = none) ↔
    checkItems text = .ok () ∧ Dialect.parse text = .error .other := by
  simp only [statementsIn, Attempt.bind_eq_error_iff, Attempt.mapError_eq_error_iff]
  constructor
  · rintro ⟨e, herror | ⟨_, hchecked, failure, hparse, rfl⟩, hreport⟩
    · exact absurd hreport (report?_of_checkItems herror)
    · exact ⟨hchecked, report?_ofFailure.mp hreport ▸ hparse⟩
  · rintro ⟨hchecked, hparse⟩
    exact ⟨.unforeseen, .inr ⟨(), hchecked, .other, hparse, rfl⟩, rfl⟩

/-- Why a text fails without a report: the parser fails with an error that it does not promise, or the first statement
that declares nothing for an error is a table with a column whose type has no name. -/
inductive Unreported (text : String) : Prop
  | parser (hchecked : checkItems text = .ok ()) (hparse : Dialect.parse text = .error .other) : Unreported text
  | nameless {before after : List Statement} {s : Statement} {d : TableDefinition}
      (hstatements : statementsIn text = .ok (before ++ s :: after))
      (hbefore : ∀ b ∈ before, ∃ entry, b.declare = .ok entry) (hdefinition : s.definition? = some d)
      (hnameless : HasNamelessColumn d) : Unreported text

/-- The failures of a text that no report covers. -/
theorem parseTables_unreported_iff :
    (∃ e, parseTables text = .error e ∧ e.report? = none) ↔ Unreported text := by
  simp only [parseTables_eq_error_iff]
  constructor
  · rintro ⟨e, herror | ⟨before, s, after, hstatements, hbefore, herror⟩, hreport⟩
    · obtain ⟨hchecked, hparse⟩ := statementsIn_unreported_iff.mp ⟨e, herror, hreport⟩
      exact .parser hchecked hparse
    · obtain ⟨d, hdefinition, hnameless⟩ := declare_unreported_iff.mp ⟨e, herror, hreport⟩
      exact .nameless hstatements hbefore hdefinition hnameless
  · rintro (⟨hchecked, hparse⟩ | ⟨hstatements, hbefore, hdefinition, hnameless⟩)
    · obtain ⟨e, herror, hreport⟩ := statementsIn_unreported_iff.mpr ⟨hchecked, hparse⟩
      exact ⟨e, .inl herror, hreport⟩
    · obtain ⟨e, herror, hreport⟩ := declare_unreported_iff.mpr ⟨_, hdefinition, hnameless⟩
      exact ⟨e, .inr ⟨_, _, _, hstatements, hbefore, herror⟩, hreport⟩

end

end GormModels.Sql
