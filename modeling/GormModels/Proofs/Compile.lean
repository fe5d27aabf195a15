import GormModels.Compile
import GormModels.Proofs.Naming.Plural
import GormModels.Proofs.Schema.Outcome
import GormModels.Proofs.Sql.Failure
import GormModels.Sql.Mysql

/-!
# How compiling fails

Compiling ends at the first stage that fails. All stages report their failures, but for two in reading a text
and one in building schemas.
-/

namespace GormModels

variable {options : Options} {sql : String} {e : CompileError}

/-! ### Stages -/

section

variable [Sql.Dialect]

theorem readTables_of_declarations {declarations : List TableDeclaration}
    (hparse : Sql.parseTables sql = .ok declarations) (hne : declarations ≠ []) :
    readTables options sql = (buildTables options declarations).mapError .ofBuild := by
  obtain ⟨t, rest, rfl⟩ := List.exists_cons_of_ne_nil hne
  rw [readTables, hparse]
  rfl

theorem readTables_eq_error_iff : readTables options sql = .error e ↔
    (∃ cause, Sql.parseTables sql = .error cause ∧ e = .sql cause) ∨
    (Sql.parseTables sql = .ok [] ∧ e = .schema .noTables) ∨
    ∃ declarations cause, Sql.parseTables sql = .ok declarations ∧ declarations ≠ [] ∧
      buildTables options declarations = .error cause ∧ e = .ofBuild cause := by
  cases hparse : Sql.parseTables sql with
  | error cause =>
      have hread : readTables options sql = .error (.sql cause) := by
        rw [readTables, hparse]
        rfl
      rw [hread]
      simp [eq_comm]
  | ok declarations =>
      by_cases hne : declarations = []
      · subst hne
        have hread : readTables options sql = .error (.schema .noTables) := by
          rw [readTables, hparse]
          rfl
        rw [hread]
        simp [eq_comm]
      · rw [readTables_of_declarations hparse hne, Attempt.mapError_eq_error_iff]
        simp [hne, eq_comm]

theorem readStructs_eq_error_iff [Naming.Inflection] :
    readStructs options sql = .error e ↔ readTables options sql = .error e ∨
      ∃ tables cause, readTables options sql = .ok tables ∧ Go.structsOf options tables = .error cause ∧
        e = .struct cause := by
  rw [readStructs, Attempt.bind_eq_error_iff]
  simp only [Attempt.mapError_eq_error_iff]
  refine or_congr_right (exists_congr fun tables => ?_)
  constructor
  · rintro ⟨htables, cause, hcause, rfl⟩
    exact ⟨cause, htables, hcause, rfl⟩
  · rintro ⟨cause, htables, hcause, rfl⟩
    exact ⟨htables, cause, hcause, rfl⟩

/-- Nothing fails once the structs are there. -/
theorem compile_eq_error_iff [Naming.Inflection] :
    compile options sql = .error e ↔ readStructs options sql = .error e := by
  rw [compile, Attempt.bind_eq_error_iff]
  simp [pure, Except.pure]

end

/-! ### Reports -/

/-- The kinds of the reports on texts that do not compile. -/
def compileKinds : List ReportKind := [.sql, .schema, .unsupportedType, .namingCollision]

theorem kind_mem_compileKinds {r : Report} (h : e.report? = some r) : r.kind ∈ compileKinds := by
  cases e with
  | sql error =>
      rw [Sql.kind_of_report? h]
      decide
  | schema error =>
      have hkind : error.report.kind = .schema := by cases error <;> rfl
      rw [← Option.some.inj h, hkind]
      decide
  | struct error =>
      rw [← Option.some.inj h]
      cases error with
      | naming error =>
          have hkind : (Go.StructError.naming error).report.kind = .namingCollision := by cases error <;> rfl
          rw [hkind]
          decide
      | type error =>
          have hkind : (Go.StructError.type error).report.kind = .unsupportedType := rfl
          rw [hkind]
          decide
  | numeral error => cases h

/-- The first table that is refused has a parameter that cannot be read as a number. -/
def HasUnreadable (tables : List TableDeclaration) : Prop :=
  ∃ before t after n, tables = before ++ t :: after ∧ (∀ b ∈ before, Sound b) ∧ TableRefused t (.numeral n)

theorem buildTables_numeral_iff (options : Options) {tables : List TableDeclaration} :
    (∃ n, buildTables options tables = .error (.numeral n)) ↔ HasUnreadable tables := by
  simp only [buildTables_eq_error_iff, HasUnreadable]
  constructor
  · rintro ⟨n, before, t, after, hsplit, hbefore, hrefused⟩
    exact ⟨before, t, after, n, hsplit, hbefore, hrefused⟩
  · rintro ⟨before, t, after, n, hsplit, hbefore, hrefused⟩
    exact ⟨n, before, t, after, hsplit, hbefore, hrefused⟩

theorem ne_nil_of_hasUnreadable {tables : List TableDeclaration} (h : HasUnreadable tables) :
    tables ≠ [] := by
  obtain ⟨before, t, after, n, rfl, -, -⟩ := h
  simp

section

variable [Sql.Dialect]

/-- Ways in which a text fails without a report, whatever the options. -/
inductive Escapes (sql : String) : Prop
  | text (hsql : Sql.Unreported sql) : Escapes sql
  | number {declarations : List TableDeclaration} (hparse : Sql.parseTables sql = .ok declarations)
      (hnumber : HasUnreadable declarations) : Escapes sql

theorem compile_unreported_iff [Naming.Inflection] (options : Options) :
    (∃ e, compile options sql = .error e ∧ e.report? = none) ↔ Escapes sql := by
  simp only [compile_eq_error_iff, readStructs_eq_error_iff, readTables_eq_error_iff]
  constructor
  · rintro ⟨e, ((⟨cause, hparse, rfl⟩ | ⟨-, rfl⟩ | ⟨declarations, cause, hparse, -, hbuild, rfl⟩) |
      ⟨tables, cause, -, -, rfl⟩), hreport⟩
    · exact .text (Sql.parseTables_unreported_iff.mp ⟨cause, hparse, hreport⟩)
    · cases hreport
    · cases cause with
      | invalid error => cases hreport
      | numeral n => exact .number hparse ((buildTables_numeral_iff options).mp ⟨n, hbuild⟩)
    · cases hreport
  · rintro (hsql | ⟨hparse, hnumber⟩)
    · obtain ⟨cause, hparse, hreport⟩ := Sql.parseTables_unreported_iff.mpr hsql
      exact ⟨.sql cause, .inl (.inl ⟨cause, hparse, rfl⟩), hreport⟩
    · obtain ⟨n, hbuild⟩ := (buildTables_numeral_iff options).mpr hnumber
      have hne := ne_nil_of_hasUnreadable hnumber
      exact ⟨.numeral n, .inl (.inr (.inr ⟨_, _, hparse, hne, hbuild, rfl⟩)), rfl⟩

/-- A text compiles or is reported on, with a report of one of four kinds, unless its failure escapes.
Building schemas fails for a fault of a table unless a parameter cannot be read, and the name of a struct always
has a plural. -/
theorem compile_reports_iff [Naming.Inflection] [LawfulInflection] (options : Options) (sql : String) :
    ((∀ e, compile options sql = .error e → ∃ r, e.report? = some r ∧ r.kind ∈ compileKinds) ↔ ¬Escapes sql) ∧
    (∀ tables, (∀ e, buildTables options tables = .error e → ∃ cause, e = .invalid cause) ↔
      ¬HasUnreadable tables) ∧
    (∀ table beginnings, ∃ plural,
      Naming.conventionalTable (Naming.structName table beginnings) = .ok plural) := by
  refine ⟨?_, fun tables => ?_, Naming.conventionalTable_structName⟩
  · rw [← compile_unreported_iff options]
    constructor
    · rintro hreported ⟨e, herror, hreport⟩
      obtain ⟨r, hr, -⟩ := hreported e herror
      rw [hreport] at hr
      cases hr
    · intro hnone e herror
      cases hreport : e.report? with
      | none => exact absurd ⟨e, herror, hreport⟩ hnone
      | some r => exact ⟨r, rfl, kind_mem_compileKinds hreport⟩
  · rw [← buildTables_numeral_iff options]
    constructor
    · rintro hinvalid ⟨n, hbuild⟩
      obtain ⟨cause, hcause⟩ := hinvalid _ hbuild
      cases hcause
    · intro hnone e hbuild
      cases e with
      | invalid cause => exact ⟨cause, rfl⟩
      | numeral n => exact absurd ⟨n, hbuild⟩ hnone

end

/-- A table with a column for a number of days, told as an interval. -/
def intervalDay : String := "CREATE TABLE t (a INTERVAL DAY)"

/-- The type of such a column has no name. -/
theorem escapes_intervalDay : Escapes intervalDay := by
  have hcompile : compile {} intervalDay = .error (.sql (.namelessType "a" "t")) := by decide +kernel
  by_contra hescapes
  obtain ⟨r, hreport, -⟩ := (compile_reports_iff {} intervalDay).1.mpr hescapes _ hcompile
  cases hreport

/-- A table whose type has a superscript for its parameter. -/
def superscriptTable : TableDeclaration :=
  { name := "t", columns := [{ name := "a", typeName := "INT", typeText := "INT", typeParams := ["²"] }] }

theorem superscriptTable_escapes :
    buildTables {} [superscriptTable] = .error (.numeral ⟨"²"⟩) ∧
      ¬∃ cause, buildTables {} [superscriptTable] = .error (.invalid cause) := by
  have hbuild : buildTables {} [superscriptTable] = .error (.numeral ⟨"²"⟩) := by decide +kernel
  refine ⟨hbuild, ?_⟩
  rintro ⟨cause, hcause⟩
  rw [hbuild] at hcause
  cases hcause

end GormModels
