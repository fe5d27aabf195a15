import GormModels.Proofs.Compile
import GormModels.Proofs.Go.StructOutcome
import GormModels.Proofs.Sql.Batch
import GormModels.Proofs.Sql.Mysql.Joining
import GormModels.Proofs.Sql.Mysql.Statement

/-!
# Structs of several texts

Texts that are read together give the structs that each gives alone, one text after the other, unless a name
occurs in two of them.
-/

namespace GormModels

open Go

/-- No struct of the one list has the name of a struct of the other. -/
def Apart (as bs : List Struct) : Prop := (as.map (·.name)).Disjoint (bs.map (·.name))

variable {options : Options}

theorem buildTables_append_eq_ok_iff {declarations declarations' : List TableDeclaration} {tables : List Table} :
    buildTables options (declarations ++ declarations') = .ok tables ↔ ∃ front back,
      buildTables options declarations = .ok front ∧ buildTables options declarations' = .ok back ∧
        tables = front ++ back := by
  simp only [buildTables, Attempt.mapM_eq_ok_iff, Attempt.forall₂_append_left_iff]

section

variable [Naming.Inflection]

/-! ### Structs of tables -/

theorem structsOf_eq_ok_iff {tables : List Table} {structs : List Struct} :
    structsOf options tables = .ok structs ↔ (tables.map (structNameOf options)).Nodup ∧
      List.Forall₂ (fun t s => structOf options t (structNameOf options t) = .ok s) tables structs := by
  rw [← Attempt.mapM_eq_ok_iff]
  constructor
  · intro h
    have hnodup := nodup_of_structsOf_eq_ok h
    rw [structsOf_of_nodup hnodup] at h
    exact ⟨hnodup, h⟩
  · rintro ⟨hnodup, h⟩
    rw [structsOf_of_nodup hnodup]
    exact h

theorem map_name_of_structs {tables : List Table} {structs : List Struct}
    (h : List.Forall₂ (fun t s => structOf options t (structNameOf options t) = .ok s) tables structs) :
    structs.map (·.name) = tables.map (structNameOf options) :=
  Attempt.map_eq_map_of_forall₂ (h.imp fun _ _ hs => (isStructOf_of_structOf_eq_ok hs).name)

theorem structsOf_append_eq_ok_iff {tables tables' : List Table} {structs : List Struct} :
    structsOf options (tables ++ tables') = .ok structs ↔ ∃ as bs, structsOf options tables = .ok as ∧
      structsOf options tables' = .ok bs ∧ Apart as bs ∧ structs = as ++ bs := by
  simp only [structsOf_eq_ok_iff, Attempt.forall₂_append_left_iff, List.map_append]
  constructor
  · rintro ⟨hnodup, as, bs, has, hbs, rfl⟩
    rw [List.nodup_append'] at hnodup
    obtain ⟨hfirst, hlast, hdisjoint⟩ := hnodup
    refine ⟨as, bs, ⟨hfirst, has⟩, ⟨hlast, hbs⟩, ?_, rfl⟩
    rwa [Apart, map_name_of_structs has, map_name_of_structs hbs]
  · rintro ⟨as, bs, ⟨hfirst, has⟩, ⟨hlast, hbs⟩, hapart, rfl⟩
    rw [Apart, map_name_of_structs has, map_name_of_structs hbs] at hapart
    exact ⟨List.nodup_append'.mpr ⟨hfirst, hlast, hapart⟩, as, bs, has, hbs, rfl⟩

/-- Tables that are fine by themselves fail together only by a name that two of them have. -/
theorem structsOf_append_collides {tables tables' : List Table} {as bs : List Struct}
    (has : structsOf options tables = .ok as) (hbs : structsOf options tables' = .ok bs)
    (hapart : ¬Apart as bs) :
    ∃ collision, structsOf options (tables ++ tables') = .error (.naming (.tables collision)) := by
  cases hresult : structsOf options (tables ++ tables') with
  | ok structs =>
      obtain ⟨as', bs', has', hbs', hapart', -⟩ := structsOf_append_eq_ok_iff.mp hresult
      cases has.symm.trans has'
      cases hbs.symm.trans hbs'
      exact absurd hapart' hapart
  | error e =>
      have hfault := structsOf_eq_error_iff.mp hresult
      cases hfault with
      | @structs collision hrepeat => exact ⟨collision, rfl⟩
      | table hstructs htables hbefore hfault =>
          obtain ⟨hfirst, has⟩ := structsOf_eq_ok_iff.mp has
          obtain ⟨hlast, hbs⟩ := structsOf_eq_ok_iff.mp hbs
          rw [List.map_append, List.nodup_append'] at hstructs
          rw [Apart, map_name_of_structs has, map_name_of_structs hbs] at hapart
          exact absurd hstructs.2.2 hapart

/-! ### Structs of declarations -/

/-- The structs that declarations give. -/
def Gives (options : Options) (declarations : List TableDeclaration) (structs : List Struct) : Prop :=
  ∃ tables, buildTables options declarations = .ok tables ∧ structsOf options tables = .ok structs

theorem Gives.length_eq {declarations : List TableDeclaration} {structs : List Struct}
    (h : Gives options declarations structs) : structs.length = declarations.length := by
  obtain ⟨tables, htables, hstructs⟩ := h
  rw [buildTables, Attempt.mapM_eq_ok_iff] at htables
  rw [htables.length_eq, (structsOf_eq_ok_iff.mp hstructs).2.length_eq]

theorem gives_append_iff {declarations declarations' : List TableDeclaration} {structs : List Struct} :
    Gives options (declarations ++ declarations') structs ↔ ∃ as bs, Gives options declarations as ∧
      Gives options declarations' bs ∧ Apart as bs ∧ structs = as ++ bs := by
  simp only [Gives, buildTables_append_eq_ok_iff]
  constructor
  · rintro ⟨-, ⟨front, back, hfront, hback, rfl⟩, hstructs⟩
    obtain ⟨as, bs, has, hbs, hapart, rfl⟩ := structsOf_append_eq_ok_iff.mp hstructs
    exact ⟨as, bs, ⟨front, hfront, has⟩, ⟨back, hback, hbs⟩, hapart, rfl⟩
  · rintro ⟨as, bs, ⟨front, hfront, has⟩, ⟨back, hback, hbs⟩, hapart, rfl⟩
    exact ⟨_, ⟨front, back, hfront, hback, rfl⟩,
      structsOf_append_eq_ok_iff.mpr ⟨as, bs, has, hbs, hapart, rfl⟩⟩

theorem Gives.unique {declarations : List TableDeclaration} {structs structs' : List Struct}
    (h : Gives options declarations structs) (h' : Gives options declarations structs') : structs = structs' := by
  obtain ⟨tables, htables, hstructs⟩ := h
  obtain ⟨tables', htables', hstructs'⟩ := h'
  rw [htables] at htables'
  cases htables'
  rw [hstructs] at hstructs'
  exact Except.ok.inj hstructs'

end

section

variable [Sql.Dialect]

/-! ### Structs of texts -/

theorem readTables_eq_ok_iff {text : String} {tables : List Table} :
    readTables options text = .ok tables ↔ ∃ declarations, Sql.parseTables text = .ok declarations ∧
      declarations ≠ [] ∧ buildTables options declarations = .ok tables := by
  constructor
  · intro h
    cases hparse : Sql.parseTables text with
    | error e =>
        rw [readTables, hparse] at h
        cases h
    | ok declarations =>
        by_cases hne : declarations = []
        · subst hne
          rw [readTables, hparse] at h
          cases h
        · rw [readTables_of_declarations hparse hne, Attempt.mapError_eq_ok_iff] at h
          exact ⟨declarations, rfl, hne, h⟩
  · rintro ⟨declarations, hparse, hne, hbuild⟩
    rw [readTables_of_declarations hparse hne, Attempt.mapError_eq_ok_iff]
    exact hbuild

variable [Naming.Inflection]

theorem readStructs_eq_ok_iff {text : String} {structs : List Struct} :
    readStructs options text = .ok structs ↔ ∃ declarations, Sql.parseTables text = .ok declarations ∧
      declarations ≠ [] ∧ Gives options declarations structs := by
  rw [readStructs, Attempt.bind_eq_ok_iff]
  simp only [readTables_eq_ok_iff, Attempt.mapError_eq_ok_iff]
  constructor
  · rintro ⟨tables, ⟨declarations, hparse, hne, hbuild⟩, hstructs⟩
    exact ⟨declarations, hparse, hne, tables, hbuild, hstructs⟩
  · rintro ⟨declarations, hparse, hne, tables, hbuild, hstructs⟩
    exact ⟨tables, ⟨declarations, hparse, hne, hbuild⟩, hstructs⟩

variable [Sql.ReadsStatements] [Sql.PartsTexts] {a b : String} {as bs : List Struct}

theorem readStructs_append_newline (hhyphens : ¬['-', '-'] <:+ a.toList) (ha : readStructs options a = .ok as) :
    readStructs options (a ++ "\n") = .ok as := by
  obtain ⟨declarations, hparse, hne, hgives⟩ := readStructs_eq_ok_iff.mp ha
  exact readStructs_eq_ok_iff.mpr
    ⟨declarations, Sql.parseTables_append_newline hhyphens hparse, hne, hgives⟩

variable (ha : readStructs options a = .ok as) (hb : readStructs options b = .ok bs)

include ha hb

theorem readStructs_batch_eq_ok_iff : readStructs options (Sql.batch a b) = .ok (as ++ bs) ↔
    readStructs options (a ++ "\n") = .ok as ∧ Apart as bs := by
  obtain ⟨da, hda, hdane, hgiva⟩ := readStructs_eq_ok_iff.mp ha
  obtain ⟨db, hdb, hdbne, hgivb⟩ := readStructs_eq_ok_iff.mp hb
  simp only [readStructs_eq_ok_iff, Sql.parseTables_batch_iff ⟨da, hda⟩ hdb]
  constructor
  · rintro ⟨-, ⟨front, hfront, rfl⟩, -, hgives⟩
    obtain ⟨as', bs', hgiva', hgivb', hapart, hsplit⟩ := gives_append_iff.mp hgives
    obtain rfl := hgivb.unique hgivb'
    obtain rfl := List.append_cancel_right hsplit
    refine ⟨⟨front, hfront, ?_, hgiva'⟩, hapart⟩
    rw [← List.length_pos_iff_ne_nil] at hdane ⊢
    rwa [← hgiva'.length_eq, hgiva.length_eq]
  · rintro ⟨⟨front, hfront, hne, hgives⟩, hapart⟩
    refine ⟨_, ⟨front, hfront, rfl⟩, by simp [hne], gives_append_iff.mpr ⟨as, bs, hgives, hgivb, hapart, rfl⟩⟩

theorem readStructs_batch_collides (hnewline : readStructs options (a ++ "\n") = .ok as)
    (hapart : ¬Apart as bs) :
    ∃ collision, readStructs options (Sql.batch a b) = .error (.struct (.naming (.tables collision))) := by
  obtain ⟨da, hda, hdane, hgiva⟩ := readStructs_eq_ok_iff.mp ha
  obtain ⟨db, hdb, hdbne, tables', htables', hbs⟩ := readStructs_eq_ok_iff.mp hb
  obtain ⟨front, hfront, hne, tables, htables, has⟩ := readStructs_eq_ok_iff.mp hnewline
  obtain ⟨collision, hcollides⟩ := structsOf_append_collides has hbs hapart
  have hparse := (Sql.parseTables_batch_iff ⟨da, hda⟩ hdb).mpr ⟨front, hfront, rfl⟩
  have hread := readTables_eq_ok_iff.mpr
    ⟨_, hparse, by simp [hne], buildTables_append_eq_ok_iff.mpr ⟨_, _, htables, htables', rfl⟩⟩
  refine ⟨collision, readStructs_eq_error_iff.mpr (.inr ⟨_, _, hread, hcollides, rfl⟩)⟩

end

section

variable [Sql.Dialect] [Naming.Inflection]

/-- Two texts read together give the structs of the first and then those of the second, or a collision where a
name occurs in both. -/
def Composes (options : Options) (a b : String) (as bs : List Struct) : Prop :=
  (Apart as bs → readStructs options (Sql.batch a b) = .ok (as ++ bs)) ∧
    (¬Apart as bs → ∃ e, readStructs options (Sql.batch a b) = .error e ∧
      ∃ r, e.report? = some r ∧ r.kind = .namingCollision)

/-- Texts that are read by themselves compose where a line feed behind the first changes nothing. It changes
nothing unless two hyphens end the text, which are signs there and start a comment before a line feed; and
texts whose names differ compose only then. -/
theorem composes_of_newline [Sql.ReadsStatements] [Sql.PartsTexts] (options : Options) {a b : String}
    {as bs : List Struct} (ha : readStructs options a = .ok as) (hb : readStructs options b = .ok bs) :
    (¬['-', '-'] <:+ a.toList → Composes options a b as bs) ∧
    (readStructs options (a ++ "\n") = .ok as → Composes options a b as bs) ∧
    (Apart as bs → Composes options a b as bs → readStructs options (a ++ "\n") = .ok as) := by
  have hcomposes : readStructs options (a ++ "\n") = .ok as → Composes options a b as bs := by
    intro hnewline
    refine ⟨fun hapart => (readStructs_batch_eq_ok_iff ha hb).mpr ⟨hnewline, hapart⟩, fun hapart => ?_⟩
    obtain ⟨collision, herror⟩ := readStructs_batch_collides ha hb hnewline hapart
    exact ⟨_, herror, _, rfl, rfl⟩
  refine ⟨fun hhyphens => hcomposes (readStructs_append_newline hhyphens ha), hcomposes, ?_⟩
  intro hapart hbatch
  exact ((readStructs_batch_eq_ok_iff ha hb).mp (hbatch.1 hapart)).1

end

/-! ### A text that does not compose -/

/-- Options under which every struct tells the name of its table. -/
def tellingOptions : Options := { forceTableName := true }

/-- The struct of a table with one nullable number. -/
def numberStruct (name table field column : String) : Struct :=
  { name
    fields := [{ name := field, type := "sql.NullInt32", tag := "gorm:\"column:" ++ column ++ "\"", column }]
    table
    package := "model"
    namesTable := true
    imports := ["database/sql"] }

theorem composes_users_items : Composes tellingOptions "CREATE TABLE users (x INT)" "CREATE TABLE items (y INT);"
    [numberStruct "Users" "users" "X" "x"] [numberStruct "Items" "items" "Y" "y"] := by
  have husers : readStructs tellingOptions "CREATE TABLE users (x INT)" =
      .ok [numberStruct "Users" "users" "X" "x"] := by decide +kernel
  have hitems : readStructs tellingOptions "CREATE TABLE items (y INT);" =
      .ok [numberStruct "Items" "items" "Y" "y"] := by decide +kernel
  exact (composes_of_newline tellingOptions husers hitems).1 (by decide +kernel)

/-- The second table stands behind a commented CREATE and, with the two hyphens at the end, is kept as a command;
a line feed makes a comment of them and a table of the command. -/
def hyphensAtEnd : String := "CREATE TABLE u (x INT); CREATE /* c */ TABLE t (a INT) --"

theorem not_composes_hyphensAtEnd : ∃ as bs, readStructs tellingOptions hyphensAtEnd = .ok as ∧
    readStructs tellingOptions "CREATE TABLE v (y INT)" = .ok bs ∧
    ¬Composes tellingOptions hyphensAtEnd "CREATE TABLE v (y INT)" as bs := by
  refine ⟨[numberStruct "U" "u" "X" "x"], [numberStruct "V" "v" "Y" "y"], by decide +kernel, by decide +kernel, ?_⟩
  intro hcomposes
  have hapart : Apart [numberStruct "U" "u" "X" "x"] [numberStruct "V" "v" "Y" "y"] := by
    simp [Apart, numberStruct]
  have hread : readStructs tellingOptions (Sql.batch hyphensAtEnd "CREATE TABLE v (y INT)") =
      .ok [numberStruct "U" "u" "X" "x", numberStruct "T" "t" "A" "a", numberStruct "V" "v" "Y" "y"] := by
    decide +kernel
  have hbatch := hcomposes.1 hapart
  rw [hread] at hbatch
  simp at hbatch

end GormModels
