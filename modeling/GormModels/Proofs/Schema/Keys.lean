import GormModels.Proofs.Naming.DistinctNames
import GormModels.Proofs.Schema.Columns

/-!
# What a column owes to the keys of its table

Part of the primary key, unique, nullable: these are told by the keys of the table together with the column's
own declaration. The names of a table's columns differ, so a name leads to the column that has it.
-/

namespace GormModels

variable {options : Options} {context : TableContext} {t : TableDeclaration} {c : ColumnDeclaration}
  {column : Column} {table : Table}

/-- The column of a declaration, with what the keys of its table make of it. -/
structure IsKeyedColumnOf (t : TableDeclaration) (c : ColumnDeclaration) (column : Column) : Prop
    extends IsColumnOf t c column where
  isPrimaryKey : column.isPrimaryKey = true ↔ c.name ∈ t.primaryKey
  isUnique : column.isUnique = true ↔
    AloneInUniqueKey t c.name ∨ c.typeName = serialType ∧ c.name ∉ t.primaryKey

theorem isKeyedColumnOf_of_build_eq_ok (hcontext : IsContextOf t context)
    (hbuild : c.build options context = .ok column) : IsKeyedColumnOf t c column := by
  have hcolumn := isColumnOf_of_build_eq_ok hcontext.primaryKey hbuild
  unfold ColumnDeclaration.build at hbuild
  dsimp only at hbuild
  split at hbuild
  case h_1 => cases hbuild
  case h_2 =>
      simp only [Attempt.bind_eq_ok_iff] at hbuild
      obtain ⟨precision, -, scale, -, length, -, hbuilt⟩ := hbuild
      cases hbuilt
      refine ⟨hcolumn, ?_, ?_⟩
      · simp [hcontext.primaryKey]
      · simp [hcontext.primaryKey, hcontext.singleUnique]

/-! ### Tables -/

/-- The names of the columns that the keys of a table are made of. -/
def TableDeclaration.keyColumns (t : TableDeclaration) : List String :=
  t.primaryKey ++ (t.uniqueKeys ++ t.indexes ++ t.foreignKeys).flatMap (·.columns)

/-- The schema of a declared table: a column for each declared one, in their order, and the declared keys. The
name of a column leads to that column, and so does its name in a key. -/
structure IsSchemaOf (t : TableDeclaration) (table : Table) : Prop where
  columns : List.Forall₂ (IsKeyedColumnOf t) t.columns table.columns
  keys : (table.primaryKey, table.uniqueKeys, table.indexes, table.foreignKeys) =
    (t.primaryKey, t.uniqueKeys, t.indexes, t.foreignKeys)
  found : ∀ column ∈ table.columns, table.column? column.name = some column
  keyFound : ∀ name ∈ t.keyColumns, ∃ column ∈ table.columns, column.name = name ∧ table.column? name = some column

theorem isKeyedColumnOf_of_build_table_eq_ok (hbuild : t.build options = .ok table) :
    List.Forall₂ (IsKeyedColumnOf t) t.columns table.columns := by
  obtain ⟨context, hcontext, hcolumns, -⟩ := exists_context_of_build_table_eq_ok hbuild
  exact hcolumns.imp fun _ _ => isKeyedColumnOf_of_build_eq_ok hcontext

theorem map_name_of_isKeyedColumnOf {columns : List ColumnDeclaration} {built : List Column}
    (h : List.Forall₂ (IsKeyedColumnOf t) columns built) : built.map (·.name) = columns.map (·.name) :=
  Attempt.map_eq_map_of_forall₂ (h.imp fun _ _ hcolumn => hcolumn.name)

theorem column?_of_mem (hdistinct : (table.columns.map (·.name)).Nodup) (hcolumn : column ∈ table.columns) :
    table.column? column.name = some column :=
  Naming.find?_of_nodup hdistinct hcolumn rfl

end GormModels
