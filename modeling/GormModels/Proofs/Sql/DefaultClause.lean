import GormModels.Proofs.Sql.Tables
import GormModels.Sql.Mysql

/-!
# Defaults

The default of a column is told twice, by a flag for NULL and by a text for other values, and no clause takes back
what an earlier one said. So the last DEFAULT clause counts as long as all are of one kind, and where one is DEFAULT
NULL and another one is not, a declaration has both.
-/

namespace GormModels.Sql

variable {c : ColumnDefinition} {table : String} {values : List Node}

/-- The values of the column's DEFAULT clauses, in their order. -/
def ColumnDefinition.defaults (c : ColumnDefinition) : List Node := defaultsOf c.constraints

/-- A declaration says of the default what one clause does, or nothing where there is none. -/
def SaysDefault (column : ColumnDeclaration) : Option Node → Prop
  | some value =>
    if value.isNull then column.defaultIsNull = true ∧ column.default = none
    else column.defaultIsNull = false ∧ column.default = some value.valueText
  | none => column.defaultIsNull = false ∧ column.default = none

/-- What a declaration says of the default, told from the values of the DEFAULT clauses. -/
structure SaysDefaults (values : List Node) (column : ColumnDeclaration) : Prop where
  isNull : column.defaultIsNull = values.any Node.isNull
  text : column.default = lastText? values
  /-- The last clause counts if all of them are DEFAULT NULL or none is. -/
  last_iff : SaysDefault column values.getLast? ↔
    (∀ value ∈ values, value.isNull = true) ∨ ∀ value ∈ values, value.isNull = false
  /-- Otherwise both NULL and a text are said to be the default, and never else. -/
  both_iff : (column.defaultIsNull = true ∧ column.default ≠ none) ↔ ¬SaysDefault column values.getLast?

theorem lastText?_eq_none_iff : lastText? values = none ↔ ∀ value ∈ values, value.isNull = true := by
  simp [lastText?]

theorem saysDefault_getLast?_iff {column : ColumnDeclaration} (hnull : column.defaultIsNull = values.any Node.isNull)
    (htext : column.default = lastText? values) : SaysDefault column values.getLast? ↔
      (∀ value ∈ values, value.isNull = true) ∨ ∀ value ∈ values, value.isNull = false := by
  cases values using List.reverseRecOn with
  | nil => simp [SaysDefault, hnull, htext, lastText?]
  | append_singleton values last =>
      rw [List.any_append, List.any_cons, List.any_nil, Bool.or_false] at hnull
      rw [lastText?_concat] at htext
      rw [List.getLast?_append, List.getLast?_singleton, Option.some_or, SaysDefault]
      cases hlast : last.isNull with
      | true =>
          rw [hlast, Bool.or_true] at hnull
          rw [hlast, if_pos rfl] at htext
          simp [hnull, htext, lastText?_eq_none_iff, hlast, or_imp, forall_and]
      | false =>
          rw [hlast, Bool.or_false] at hnull
          rw [hlast, if_neg Bool.false_ne_true] at htext
          simp [hnull, htext, hlast, or_imp, forall_and]

theorem saysDefaults {column : ColumnDeclaration} (hnull : column.defaultIsNull = values.any Node.isNull)
    (htext : column.default = lastText? values) : SaysDefaults values column where
  isNull := hnull
  text := htext
  last_iff := saysDefault_getLast?_iff hnull htext
  both_iff := by
    rw [saysDefault_getLast?_iff hnull htext, hnull, htext, Ne, lastText?_eq_none_iff]
    simp only [List.any_eq_true, not_or, not_forall, Bool.not_eq_false, exists_prop]
    exact and_comm

theorem saysDefaults_of_declare {column : ColumnDeclaration} (h : c.declare table = .ok column) :
    SaysDefaults c.defaults column := by
  obtain ⟨type, typeName, -, -, rfl⟩ := exists_type_of_declare h
  exact saysDefaults (Bool.false_or _) Option.or_none

/-- Of the DEFAULT clauses of a column the last one counts, in every table that a text declares, unless one of them
is DEFAULT NULL and another one is not. -/
theorem saysDefaults_of_parseTables [Dialect] {text : String} {tables : List TableDeclaration}
    (h : parseTables text = .ok tables) : ∃ statements, statementsIn text = .ok statements ∧
      List.Forall₂ (fun (d : TableDefinition) (t : TableDeclaration) =>
          List.Forall₂ (fun (c : ColumnDefinition) column => SaysDefaults c.defaults column)
            (columnsOf d.items) t.columns)
        (statements.filterMap Statement.definition?) tables := by
  obtain ⟨statements, hstatements, hdefined⟩ := definitions_of_parseTables h
  refine ⟨statements, hstatements, hdefined.imp ?_⟩
  exact fun d t hdeclare => (columns_of_declare hdeclare).imp fun c column => saysDefaults_of_declare

theorem saysDefaults_memo :
    ∃ statements, statementsIn "CREATE TABLE memo (page INT DEFAULT 1 NOT NULL DEFAULT '2', body TEXT DEFAULT NULL)" =
        .ok statements ∧
      List.Forall₂ (fun (d : TableDefinition) (t : TableDeclaration) =>
          List.Forall₂ (fun (c : ColumnDefinition) column => SaysDefaults c.defaults column)
            (columnsOf d.items) t.columns)
        (statements.filterMap Statement.definition?)
        [{ name := "memo"
           columns :=
             [{ name := "page", typeName := "INT", typeText := "INT", notNull := true, default := some "2" },
               { name := "body", typeName := "TEXT", typeText := "TEXT", defaultIsNull := true }] }] := by
  apply saysDefaults_of_parseTables
  decide +kernel

/-- A column with the default 1 that is taken back. -/
def pageTable : String := "CREATE TABLE memo (page INT DEFAULT 1 DEFAULT NULL)"

def pageColumn : ColumnDeclaration :=
  { name := "page", typeName := "INT", typeText := "INT", default := some "1", defaultIsNull := true }

theorem not_saysDefault_page :
    (statementsIn pageTable).toOption.map (fun statements =>
        (statements.filterMap Statement.definition?).map fun d =>
          (columnsOf d.items).map fun c => c.defaults.map Node.isNull) = some [[[false, true]]] ∧
      parseTables pageTable = .ok [{ name := "memo", columns := [pageColumn] }] ∧
      ∀ last : Node, last.isNull = true → ¬SaysDefault pageColumn (some last) := by
  refine ⟨by decide +kernel, by decide +kernel, fun last hlast hsays => ?_⟩
  rw [SaysDefault, if_pos hlast] at hsays
  exact absurd hsays.2 (by decide)

end GormModels.Sql
