import GormModels.Compile
import GormModels.Proofs.Go.StructAlike

/-!
# Options by themselves

An option changes what it is for and nothing else. Character sets show in no source, and the choices of tags and
of types for nulls change no name, no order and no failure: two runs that differ in them fail alike, or give
structs that differ in the tags or in the types of their fields only.
-/

namespace GormModels

namespace Go

/-- The fields are equal in everything but their tags and JSON names. -/
def Field.Retagged (f f' : Field) : Prop := f' = { f with tag := f'.tag, jsonName := f'.jsonName }

/-- The fields are equal in everything but their types. -/
def Field.Retyped (f f' : Field) : Prop := f' = { f with type := f'.type }

/-- The structs are equal in everything but the tags and JSON names of their fields. -/
structure Struct.Retagged (s s' : Struct) : Prop where
  apart : s' = { s with fields := s'.fields }
  fields : List.Forall₂ Field.Retagged s.fields s'.fields

/-- The structs are equal in everything but the types of their fields and the packages that these need. -/
structure Struct.Retyped (s s' : Struct) : Prop where
  apart : s' = { s with fields := s'.fields, imports := s'.imports }
  fields : List.Forall₂ Field.Retyped s.fields s'.fields

variable {options : Options}

/-! ### Tags -/

theorem alike_fieldOf_retagged (jsonTag withType : Bool) (table : String) (c : Column) (name : String) :
    Alike (fun m m' : Made => m.1.Retagged m'.1 ∧ m.2 = m'.2) (fieldOf options table c name)
      (fieldOf { options with jsonTag, withType } table c name) :=
  .bind_same (resolveType options c (some table)) fun _ => .ok ⟨rfl, rfl⟩

theorem Struct.retagged_of_made {s s' : Struct}
    (h : s.MadeAlike (fun m m' => m.1.Retagged m'.1 ∧ m.2 = m'.2) s') : s.Retagged s' := by
  obtain ⟨made, made', hmade, hfields, himports, rfl⟩ := h
  have hpackages : made.map (·.2) = made'.map (·.2) := by
    rw [← List.forall₂_eq_eq_eq, List.forall₂_map_left_iff, List.forall₂_map_right_iff]
    exact hmade.imp fun _ _ h => h.2
  refine ⟨?_, ?_⟩
  · rw [List.flatMap_def, ← hpackages, ← List.flatMap_def, ← himports]
  · rw [hfields, List.forall₂_map_left_iff, List.forall₂_map_right_iff]
    exact hmade.imp fun _ _ h => h.1

theorem alike_structsOf_retagged [Naming.Inflection] (jsonTag withType : Bool) (tables : List Table) :
    Alike (List.Forall₂ Struct.Retagged) (structsOf options tables)
      (structsOf { options with jsonTag, withType } tables) := by
  have hoptions : NamesAlike options { options with jsonTag, withType } := ⟨rfl, rfl, rfl, rfl⟩
  have hnames : KeepsNames fun m m' => m.1.Retagged m'.1 ∧ m.2 = m'.2 := by
    rintro ⟨f, imports⟩ ⟨f', imports'⟩ ⟨hfield, -⟩
    rw [hfield]
    exact ⟨rfl, rfl⟩
  have hmade := alike_structsOf hoptions hnames (alike_fieldOf_retagged jsonTag withType) tables
  exact hmade.imp fun _ _ h => h.imp fun _ _ => Struct.retagged_of_made

/-! ### Types -/

/-- Whether a column has a type does not depend on the options. -/
theorem alike_resolveType (options options' : Options) (c : Column) (table : Option String) :
    Alike (fun _ _ => True) (resolveType options c table) (resolveType options' c table) := by
  unfold resolveType
  refine .bind_same _ fun type => ?_
  repeat' split
  all_goals exact .ok trivial

theorem alike_fieldOf_retyped (noNullType : Bool) (nullStyle : NullStyle) (table : String) (c : Column)
    (name : String) :
    Alike (fun m m' : Made => m.1.Retyped m'.1) (fieldOf options table c name)
      (fieldOf { options with noNullType, nullStyle } table c name) :=
  (alike_resolveType _ _ c (some table)).bind fun _ _ _ => .ok rfl

theorem Struct.retyped_of_made {s s' : Struct} (h : s.MadeAlike (fun m m' => m.1.Retyped m'.1) s') :
    s.Retyped s' := by
  obtain ⟨made, made', hmade, hfields, himports, rfl⟩ := h
  refine ⟨rfl, ?_⟩
  rw [hfields, List.forall₂_map_left_iff, List.forall₂_map_right_iff]
  exact hmade

theorem alike_structsOf_retyped [Naming.Inflection] (noNullType : Bool) (nullStyle : NullStyle)
    (tables : List Table) :
    Alike (List.Forall₂ Struct.Retyped) (structsOf options tables)
      (structsOf { options with noNullType, nullStyle } tables) := by
  have hoptions : NamesAlike options { options with noNullType, nullStyle } := ⟨rfl, rfl, rfl, rfl⟩
  have hnames : KeepsNames fun m m' => m.1.Retyped m'.1 := by
    rintro ⟨f, imports⟩ ⟨f', imports'⟩ hfield
    rw [hfield]
    exact ⟨rfl, rfl⟩
  have hmade := alike_structsOf hoptions hnames (alike_fieldOf_retyped noNullType nullStyle) tables
  exact hmade.imp fun _ _ h => h.imp fun _ _ => Struct.retyped_of_made

end Go

section

variable [Sql.Dialect] {options : Options}

theorem alike_readTables_recoded (charset collation : Option String) (sql : String) :
    Alike (List.Forall₂ Table.Recoded) (readTables options sql)
      (readTables { options with charset, collation } sql) := by
  unfold readTables
  refine .bind_same _ fun declarations => ?_
  split
  · exact .error _
  · exact (alike_buildTables charset collation declarations).mapError

variable [Naming.Inflection]

theorem readStructs_recoded (charset collation : Option String) (sql : String) :
    readStructs { options with charset, collation } sql = readStructs options sql := by
  refine (Alike.eq ((alike_readTables_recoded charset collation sql).bind fun tables tables' hrecoded => ?_)).symm
  rw [Go.structsOf_recoded hrecoded]
  exact .refl (fun _ => rfl) _

/-- Options that differ in character set and collation give the same source or the same error, options that differ
in what tags tell the same error or the same structs but for the tags, and options that differ in how nulls are
kept the same error or the same structs but for the types of fields and the packages these need. -/
theorem options_independent (options : Options) (sql : String) :
    (∀ charset collation, compile { options with charset, collation } sql = compile options sql) ∧
    (∀ jsonTag withType, Alike (List.Forall₂ Go.Struct.Retagged) (readStructs options sql)
      (readStructs { options with jsonTag, withType } sql)) ∧
    (∀ noNullType nullStyle, Alike (List.Forall₂ Go.Struct.Retyped) (readStructs options sql)
      (readStructs { options with noNullType, nullStyle } sql)) := by
  refine ⟨fun charset collation => ?_, fun jsonTag withType => ?_, fun noNullType nullStyle => ?_⟩
  · unfold compile
    rw [readStructs_recoded]
  · exact .bind_same (readTables options sql) fun tables =>
      (Go.alike_structsOf_retagged jsonTag withType tables).mapError
  · exact .bind_same (readTables options sql) fun tables =>
      (Go.alike_structsOf_retyped noNullType nullStyle tables).mapError

end

end GormModels
