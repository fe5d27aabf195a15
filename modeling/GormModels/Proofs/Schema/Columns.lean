import GormModels.Proofs.Schema.Outcome

/-!
# What a column keeps of its declaration

The columns of a table stand in the order of their declarations. Whether a column may be null is the one thing
about it that its own declaration does not settle: a key of the table or a type with rules of its own can
forbid it.
-/

namespace GormModels

variable {options : Options} {context : TableContext} {t : TableDeclaration} {c : ColumnDeclaration}
  {column : Column}

/-- The column may not be null: it is declared so, part of the primary key, or a serial. -/
def Required (t : TableDeclaration) (c : ColumnDeclaration) : Prop :=
  c.notNull = true ∨ c.name ∈ t.primaryKey ∨ c.typeName = serialType

instance (t : TableDeclaration) (c : ColumnDeclaration) : Decidable (Required t c) :=
  inferInstanceAs (Decidable (_ ∨ _ ∨ _))

/-- The column of a declaration, in what does not depend on the options. -/
structure IsColumnOf (t : TableDeclaration) (c : ColumnDeclaration) (column : Column) : Prop where
  name : column.name = c.name
  type : (column.typeName, column.unsigned) = stripUnsigned c.typeName
  typeText : column.typeText = c.typeText
  default : column.default = c.default
  comment : column.comment = c.comment
  nullable : column.nullable = true ↔ ¬Required t c

theorem isColumnOf_of_build_eq_ok (hprimary : context.primaryKey = t.primaryKey)
    (hbuild : c.build options context = .ok column) : IsColumnOf t c column := by
  unfold ColumnDeclaration.build at hbuild
  dsimp only at hbuild
  split at hbuild
  case h_1 => cases hbuild
  case h_2 =>
      simp only [Attempt.bind_eq_ok_iff] at hbuild
      obtain ⟨precision, -, scale, -, length, -, hcolumn⟩ := hbuild
      cases hcolumn
      refine ⟨rfl, rfl, rfl, rfl, rfl, ?_⟩
      simp only [hprimary, Required, Bool.and_eq_true, Bool.not_eq_true', not_or, List.contains_eq_mem,
        decide_eq_false_iff_not, beq_eq_false_iff_ne, ne_eq, Bool.not_eq_true, and_assoc]

/-! ### Tables -/

/-- The column is all that some unique key is made of. -/
def AloneInUniqueKey (t : TableDeclaration) (name : String) : Prop := ∃ key ∈ t.uniqueKeys, key.columns = [name]

/-- The columns are built under the keys of the table. -/
structure IsContextOf (t : TableDeclaration) (context : TableContext) : Prop where
  primaryKey : context.primaryKey = t.primaryKey
  singleUnique : ∀ name, name ∈ context.singleUnique ↔ AloneInUniqueKey t name

theorem mem_singleUnique_iff {name : String} :
    (name ∈ t.uniqueKeys.filterMap fun key => match key.columns with
      | [column] => some column
      | _ => none) ↔ AloneInUniqueKey t name := by
  rw [List.mem_filterMap]
  refine exists_congr fun key => and_congr_right fun _ => ?_
  match key.columns with
  | [] | [_] | _ :: _ :: _ => simp

/-- A table that is built keeps its keys and its comment, and all its columns are built in one context. -/
theorem exists_context_of_build_table_eq_ok {table : Table} (hbuild : t.build options = .ok table) :
    ∃ context, IsContextOf t context ∧
      List.Forall₂ (fun c column => c.build options context = .ok column) t.columns table.columns ∧
      (table.primaryKey, table.uniqueKeys, table.indexes, table.foreignKeys) =
        (t.primaryKey, t.uniqueKeys, t.indexes, t.foreignKeys) ∧
      table.comment = t.comment := by
  unfold TableDeclaration.build at hbuild
  split at hbuild
  case h_1 => cases hbuild
  case h_2 =>
      simp only [Attempt.bind_eq_ok_iff] at hbuild
      obtain ⟨columns, hcolumns, htable⟩ := hbuild
      cases htable
      exact ⟨_, ⟨rfl, fun _ => mem_singleUnique_iff⟩, Attempt.mapM_eq_ok_iff.mp hcolumns, rfl, rfl⟩

/-- A table has one column for each declared one, in their order. -/
theorem isColumnOf_of_build_table_eq_ok {table : Table} (hbuild : t.build options = .ok table) :
    List.Forall₂ (IsColumnOf t) t.columns table.columns := by
  obtain ⟨context, hcontext, hcolumns, -⟩ := exists_context_of_build_table_eq_ok hbuild
  exact hcolumns.imp fun _ _ => isColumnOf_of_build_eq_ok hcontext.primaryKey

theorem isColumnOf_of_buildTables_eq_ok {declarations : List TableDeclaration} {tables : List Table}
    (hbuild : buildTables options declarations = .ok tables) :
    List.Forall₂ (fun t table => List.Forall₂ (IsColumnOf t) t.columns table.columns) declarations tables :=
  (Attempt.mapM_eq_ok_iff.mp hbuild).imp fun _ _ => isColumnOf_of_build_table_eq_ok

end GormModels
