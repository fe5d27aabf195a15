import GormModels.Go.Struct
import GormModels.Proofs.Schema.Charset

/-!
# Structs of two runs

Structs do not depend on the character sets of their tables. Under options that name things alike, they differ
only as their fields do: whatever the options do to a field, the same tables are refused for the same reasons.
-/

namespace GormModels.Go

variable {options options' : Options}

theorem forall₂_zip_names {α : Type} {R : α → α → Prop} {xs ys : List α} (h : List.Forall₂ R xs ys)
    (names : List String) :
    List.Forall₂ (fun p q => R p.1 q.1 ∧ q.2 = p.2) (xs.zip names) (ys.zip names) := by
  induction h generalizing names with
  | nil => exact .nil
  | cons hfirst _ ih =>
      cases names with
      | nil => exact .nil
      | cons name names => exact .cons ⟨hfirst, rfl⟩ (ih names)

/-! ### Tables under other character sets -/

theorem map_name_recoded {columns columns' : List Column} (h : List.Forall₂ Column.Recoded columns columns') :
    columns'.map (·.name) = columns.map (·.name) := by
  refine Attempt.map_eq_map_of_forall₂ (h.imp fun c c' hc => ?_)
  rw [hc]

theorem fieldOf_recoded {c c' : Column} (h : c.Recoded c') (table name : String) :
    fieldOf options table c' name = fieldOf options table c name := by
  rw [h]
  rfl

theorem structOf_recoded [Naming.Inflection] {t t' : Table} (h : t.Recoded t') (name : String) :
    structOf options t name = structOf options t' name := by
  have hfields (names : List String) :
      (t.columns.zip names).mapM (fun p => fieldOf options t.name p.1 p.2) =
        (t'.columns.zip names).mapM fun p => fieldOf options t.name p.1 p.2 := by
    have halike := Alike.mapM (S := Eq) (forall₂_zip_names h.columns names)
      (f := fun p => fieldOf options t.name p.1 p.2) (g := fun p => fieldOf options t.name p.1 p.2) <| by
        rintro ⟨c, fieldName⟩ ⟨c', _⟩ ⟨hrecoded, rfl⟩
        rw [fieldOf_recoded hrecoded]
        exact .refl (fun _ => rfl) _
    rw [List.forall₂_eq_eq_eq] at halike
    exact halike.eq
  rw [h.apart]
  simp only [structOf, map_name_recoded h.columns, hfields]

theorem structsOf_recoded [Naming.Inflection] {tables tables' : List Table}
    (h : List.Forall₂ Table.Recoded tables tables') :
    structsOf options tables = structsOf options tables' := by
  have hnames : tables'.map (·.name) = tables.map (·.name) := by
    refine Attempt.map_eq_map_of_forall₂ (h.imp fun t t' ht => ?_)
    rw [ht.apart]
  have hstructs (names : List String) :
      (tables.zip names).mapM (fun p => structOf options p.1 p.2) =
        (tables'.zip names).mapM fun p => structOf options p.1 p.2 := by
    have halike := Alike.mapM (S := Eq) (forall₂_zip_names h names)
      (f := fun p => structOf options p.1 p.2) (g := fun p => structOf options p.1 p.2) <| by
        rintro ⟨t, name⟩ ⟨t', _⟩ ⟨hrecoded, rfl⟩
        rw [structOf_recoded hrecoded]
        exact .refl (fun _ => rfl) _
    rw [List.forall₂_eq_eq_eq] at halike
    exact halike.eq
  simp only [structsOf, hnames, hstructs]

/-! ### Options that name things alike -/

/-- The options give structs, fields and the package the same names. -/
structure NamesAlike (options options' : Options) : Prop where
  tablePrefixes : options'.tablePrefixes = options.tablePrefixes
  columnPrefixes : options'.columnPrefixes = options.columnPrefixes
  package : options'.package = options.package
  forceTableName : options'.forceTableName = options.forceTableName

/-- A field with the packages that its type needs. -/
abbrev Made := Field × List String

/-- The structs are equal in everything but their fields and packages, and these come from pairs in a
relation. -/
def Struct.MadeAlike (P : Made → Made → Prop) (s s' : Struct) : Prop :=
  ∃ made made' : List Made, List.Forall₂ P made made' ∧ s.fields = made.map (·.1) ∧
    s.imports = sortedSet (made.flatMap (·.2)) ∧
    s' = { s with fields := made'.map (·.1), imports := sortedSet (made'.flatMap (·.2)) }

variable {P : Made → Made → Prop}

/-- The relation keeps the names of fields and columns. -/
def KeepsNames (P : Made → Made → Prop) : Prop :=
  ∀ m m', P m m' → m'.1.name = m.1.name ∧ m'.1.column = m.1.column

theorem column_find?_alike (hP : KeepsNames P) {made made' : List Made} (h : List.Forall₂ P made made')
    (name : String) :
    ((made'.map (·.1)).find? (·.name == name)).map (·.column) =
      ((made.map (·.1)).find? (·.name == name)).map (·.column) := by
  induction h with
  | nil => rfl
  | cons hfirst _ ih =>
      obtain ⟨hname, hcolumn⟩ := hP _ _ hfirst
      simp only [List.map_cons, List.find?_cons, hname]
      split
      · simp [hcolumn]
      · exact ih

theorem alike_structOf [Naming.Inflection] (hoptions : NamesAlike options options') (hP : KeepsNames P) {t : Table}
    (hfield : ∀ c name, Alike P (fieldOf options t.name c name) (fieldOf options' t.name c name)) (name : String) :
    Alike (Struct.MadeAlike P) (structOf options t name) (structOf options' t name) := by
  have htells : needsTableName options' name t.name = needsTableName options name t.name := by
    rw [needsTableName, needsTableName, hoptions.forceTableName]
  simp only [structOf, hoptions.columnPrefixes, hoptions.package, htells]
  refine .bind_same _ fun fieldNames => ?_
  have hfields : Alike (List.Forall₂ P)
      ((t.columns.zip fieldNames).mapM fun p => fieldOf options t.name p.1 p.2)
      ((t.columns.zip fieldNames).mapM fun p => fieldOf options' t.name p.1 p.2) :=
    .mapM_same _ fun p => hfield p.1 p.2
  refine hfields.mapError.bind fun made made' hmade => ?_
  have hcolumn := column_find?_alike hP hmade Naming.tableNameMethod
  cases hfind : (made.map (·.1)).find? (·.name == Naming.tableNameMethod) with
  | none =>
      rw [hfind, Option.map_none, Option.map_eq_none_iff] at hcolumn
      simp only [hcolumn]
      exact .ok ⟨made, made', hmade, rfl, rfl, rfl⟩
  | some field =>
      rw [hfind, Option.map_some] at hcolumn
      obtain ⟨field', hfind', hcolumn⟩ := Option.map_eq_some_iff.mp hcolumn
      simp only [hfind', hcolumn]
      split
      · exact .error _
      · exact .ok ⟨made, made', hmade, rfl, rfl, rfl⟩

theorem alike_structsOf [Naming.Inflection] (hoptions : NamesAlike options options') (hP : KeepsNames P)
    (hfield : ∀ table c name, Alike P (fieldOf options table c name) (fieldOf options' table c name))
    (tables : List Table) :
    Alike (List.Forall₂ (Struct.MadeAlike P)) (structsOf options tables) (structsOf options' tables) := by
  simp only [structsOf, hoptions.tablePrefixes]
  exact .bind_same _ fun names => .mapM_same _ fun p => alike_structOf hoptions hP (hfield p.1.name) p.2

end GormModels.Go
