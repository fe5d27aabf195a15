import GormModels.Proofs.Schema.Acceptance

/-!
# Columns that are null by default

A column that is null by default should be one that can be null. A declared NOT NULL is refused beside it; the
two other grounds on which a column is never null, the primary key and the serial type, are not.
-/

namespace GormModels

variable {options : Options} {t : TableDeclaration} {table : Table}

/-- Every column that is null by default can be null. -/
def KeepsNullDefaults (t : TableDeclaration) (table : Table) : Prop :=
  List.Forall₂ (fun c column => c.defaultIsNull = true → column.nullable = true) t.columns table.columns

/-- Nothing but the column's own words keeps it from being null. -/
def FreeOfKeys (t : TableDeclaration) (c : ColumnDeclaration) : Prop :=
  c.name ∉ t.primaryKey ∧ c.typeName ≠ serialType

theorem notNull_of_defaultIsNull (hbuild : t.build options = .ok table) {c : ColumnDeclaration}
    (hc : c ∈ t.columns) (hdefault : c.defaultIsNull = true) : c.notNull = false := by
  have hadmissible := (sound_iff.mp (build_table_succeeds_iff.mp ⟨table, hbuild⟩)).1
  exact Bool.eq_false_iff.mpr fun hnotNull => (hadmissible.consistent c hc).notNull_default ⟨hnotNull, hdefault⟩

theorem nullable_iff_of_defaultIsNull {c : ColumnDeclaration} {column : Column} (hcolumn : IsColumnOf t c column)
    (hnotNull : c.notNull = false) : column.nullable = true ↔ FreeOfKeys t c := by
  simp [hcolumn.nullable, Required, FreeOfKeys, hnotNull]

/-- Where a relation comes down to a property of its left side, two lists are in it if the left one has that
property throughout. -/
theorem forall₂_iff_forall_mem {α β : Type} {R : α → β → Prop} {p : α → Prop} {xs : List α} {ys : List β}
    (h : List.Forall₂ (fun x y => R x y ↔ p x) xs ys) : List.Forall₂ R xs ys ↔ ∀ x ∈ xs, p x := by
  induction h with
  | nil => simp
  | cons hfirst _ ih => rw [List.forall₂_cons, ih, List.forall_mem_cons, hfirst]

/-- In a table that makes a schema, no column that is null by default is declared NOT NULL, and one that is can be
null just if it is neither in the primary key nor a serial. So all of them can be null exactly if none of them
is in the primary key or a serial. -/
theorem keepsNullDefaults_iff (hbuild : t.build options = .ok table) :
    (∀ c ∈ t.columns, c.defaultIsNull = true → c.notNull = false) ∧
    List.Forall₂ (fun c column => c.defaultIsNull = true → (column.nullable = true ↔ FreeOfKeys t c))
      t.columns table.columns ∧
    (KeepsNullDefaults t table ↔ ∀ c ∈ t.columns, c.defaultIsNull = true → FreeOfKeys t c) := by
  have hnotNull : ∀ c ∈ t.columns, c.defaultIsNull = true → c.notNull = false := fun _ =>
    notNull_of_defaultIsNull hbuild
  have hnullable : List.Forall₂
      (fun c column => c.defaultIsNull = true → (column.nullable = true ↔ FreeOfKeys t c))
      t.columns table.columns := by
    have hcolumns := (List.forall₂_and_left _ _).mpr ⟨hnotNull, isColumnOf_of_build_table_eq_ok hbuild⟩
    exact hcolumns.imp fun _ _ h hdefault => nullable_iff_of_defaultIsNull h.2 (h.1 hdefault)
  exact ⟨hnotNull, hnullable, forall₂_iff_forall_mem (hnullable.imp fun _ _ => imp_congr_right)⟩

/-- A memo that may be left out, under a key that may not. -/
def memo : TableDeclaration :=
  { name := "memo"
    columns :=
      [{ name := "id", typeName := "INT", typeText := "INT" },
       { name := "body", typeName := "TEXT", typeText := "TEXT", defaultIsNull := true }]
    primaryKey := ["id"] }

def memoTable : Table :=
  { name := "memo"
    columns :=
      [{ name := "id", typeName := "INT", typeText := "INT", isPrimaryKey := true
         charset := "utf8mb4", collation := "utf8mb4_general_ci" },
       { name := "body", typeName := "TEXT", typeText := "TEXT", nullable := true
         charset := "utf8mb4", collation := "utf8mb4_general_ci" }]
    charset := "utf8mb4"
    collation := "utf8mb4_general_ci"
    primaryKey := ["id"] }

theorem keepsNullDefaults_memo : memo.build {} = .ok memoTable ∧ KeepsNullDefaults memo memoTable := by
  have hbuild : memo.build {} = .ok memoTable := by decide +kernel
  refine ⟨hbuild, (keepsNullDefaults_iff hbuild).2.2.mpr ?_⟩
  simp [memo, FreeOfKeys, serialType]

/-- A primary key that is null by default. -/
def nullKey : TableDeclaration :=
  { name := "t", columns := [{ name := "a", typeName := "INT", typeText := "INT", defaultIsNull := true }]
    primaryKey := ["a"] }

def nullKeyTable : Table :=
  { name := "t"
    columns :=
      [{ name := "a", typeName := "INT", typeText := "INT", isPrimaryKey := true
         charset := "utf8mb4", collation := "utf8mb4_general_ci" }]
    charset := "utf8mb4"
    collation := "utf8mb4_general_ci"
    primaryKey := ["a"] }

theorem nullKey_not_nullable : nullKey.build {} = .ok nullKeyTable ∧ ¬KeepsNullDefaults nullKey nullKeyTable := by
  refine ⟨by decide +kernel, ?_⟩
  simp [KeepsNullDefaults, nullKey, nullKeyTable]

end GormModels
