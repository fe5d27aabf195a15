import GormModels.Go.Struct
import GormModels.Proofs.Naming.DistinctNames

/-!
# When structs can be made

Structs are made of a batch of tables unless a name is taken twice, a column has no Go type, or a field takes
the name of the method that tells the table. Of several faults the error tells the first in a fixed order,
which is what `BatchFault` and `TableFault` write down.
-/

namespace GormModels.Go

variable {options : Options} {name : String} {t : Table} {c : Column} {tables : List Table}

def fieldNameOf (options : Options) (c : Column) : String :=
  Naming.fieldName c.name options.columnPrefixes

def structNameOf (options : Options) (t : Table) : String :=
  Naming.structName t.name options.tablePrefixes

/-- The column's SQL type, signed or unsigned as it is, has a Go type. -/
def Mapped (c : Column) : Prop := (c.typeName, c.unsigned) ∈ typeTable.map Prod.fst

/-- The error for a column without a Go type. -/
def unsupported (t : Table) (c : Column) : UnsupportedType :=
  ⟨if c.unsigned then c.typeName ++ " UNSIGNED" else c.typeName, some t.name, c.name⟩

/-- The field of a column, apart from its type and tag. -/
def IsFieldOf (options : Options) (c : Column) (f : Field) : Prop :=
  f.name = fieldNameOf options c ∧ f.column = c.name ∧ f.comment = c.comment ∧
    f.jsonName = if options.jsonTag then some (Naming.jsonName c.name options.columnPrefixes) else none

section

variable [Naming.Inflection]

/-- The table's struct gets the method that tells its table. -/
def TellsTable (options : Options) (name : String) (t : Table) : Prop :=
  needsTableName options name t.name = true

/-- A struct of the name can be made for the table. -/
structure Acceptable (options : Options) (name : String) (t : Table) : Prop where
  fields : (t.columns.map (fieldNameOf options)).Nodup
  types : ∀ c ∈ t.columns, Mapped c
  method : TellsTable options name t → Naming.tableNameMethod ∉ t.columns.map (fieldNameOf options)

/-- The first fault of a table: a repeated field name, else its first column without a Go type, else a field
with the name of the method. -/
inductive TableFault (options : Options) (name : String) (t : Table) : StructError → Prop
  | fields {collision : Naming.Collision}
      (hrepeat : Naming.FirstRepeat (Naming.fieldName · options.columnPrefixes) (t.columns.map (·.name))
        collision) :
      TableFault options name t (.naming (.columns t.name collision))
  | type {before after : List Column} {c : Column}
      (hfields : (t.columns.map (fieldNameOf options)).Nodup)
      (hcolumns : t.columns = before ++ c :: after) (hbefore : ∀ b ∈ before, Mapped b) (hc : ¬Mapped c) :
      TableFault options name t (.type (unsupported t c))
  | method {c : Column}
      (hfields : (t.columns.map (fieldNameOf options)).Nodup) (htypes : ∀ c ∈ t.columns, Mapped c)
      (htells : TellsTable options name t) (hc : c ∈ t.columns)
      (hname : fieldNameOf options c = Naming.tableNameMethod) :
      TableFault options name t (.naming (.method t.name c.name))

/-- The first fault of a batch: a repeated struct name, else the fault of its first table that has one. -/
inductive BatchFault (options : Options) (tables : List Table) : StructError → Prop
  | structs {collision : Naming.Collision}
      (hrepeat : Naming.FirstRepeat (Naming.structName · options.tablePrefixes) (tables.map (·.name))
        collision) :
      BatchFault options tables (.naming (.tables collision))
  | table {before after : List Table} {t : Table} {e : StructError}
      (hstructs : (tables.map (structNameOf options)).Nodup)
      (htables : tables = before ++ t :: after)
      (hbefore : ∀ b ∈ before, Acceptable options (structNameOf options b) b)
      (hfault : TableFault options (structNameOf options t) t e) :
      BatchFault options tables e

/-- The struct of a table, with one field for each of its columns in their order. -/
structure IsStructOf (options : Options) (name : String) (t : Table) (s : Struct) : Prop where
  namesTable : s.namesTable = true ↔ TellsTable options name t
  name : s.name = name
  table : s.table = t.name
  comment : s.comment = t.comment
  package : s.package = options.package
  fields : List.Forall₂ (IsFieldOf options) t.columns s.fields

end

/-! ### Fields -/

theorem mapped_iff_isSome_lookup : Mapped c ↔ (typeTable.lookup (c.typeName, c.unsigned)).isSome := by
  unfold Mapped
  generalize typeTable = table
  simp only [List.lookup_isSome_iff, List.mem_map, beq_iff_eq]
  constructor
  · rintro ⟨entry, hentry, heq⟩
    exact ⟨entry, hentry, heq.symm⟩
  · rintro ⟨entry, hentry, heq⟩
    exact ⟨entry, hentry, heq.symm⟩

theorem lookupType_of_mapped (hmapped : Mapped c) (table : Option String) :
    ∃ type, lookupType c table = .ok type := by
  obtain ⟨type, hlookup⟩ := Option.isSome_iff_exists.mp (mapped_iff_isSome_lookup.mp hmapped)
  exact ⟨type, by rw [lookupType, hlookup]⟩

theorem lookupType_of_not_mapped (hmapped : ¬Mapped c) (t : Table) :
    lookupType c (some t.name) = .error (unsupported t c) := by
  rw [mapped_iff_isSome_lookup, Option.not_isSome_iff_eq_none] at hmapped
  rw [lookupType, hmapped]
  rfl

theorem resolveType_of_mapped (options : Options) (hmapped : Mapped c) (table : Option String) :
    ∃ type, resolveType options c table = .ok type := by
  obtain ⟨type, hlookup⟩ := lookupType_of_mapped hmapped table
  simp only [resolveType, hlookup, bind, Except.bind]
  split
  · exact ⟨_, rfl⟩
  · split
    · split <;> exact ⟨_, rfl⟩
    · exact ⟨_, rfl⟩

theorem fieldOf_of_mapped (options : Options) (hmapped : Mapped c) (table : String) :
    ∃ field, fieldOf options table c (fieldNameOf options c) = .ok field := by
  obtain ⟨type, hresolve⟩ := resolveType_of_mapped options hmapped (some table)
  simp only [fieldOf, hresolve, bind, Except.bind]
  exact ⟨_, rfl⟩

theorem fieldOf_of_not_mapped (hmapped : ¬Mapped c) (t : Table) :
    fieldOf options t.name c (fieldNameOf options c) = .error (unsupported t c) := by
  simp only [fieldOf, resolveType, lookupType_of_not_mapped hmapped t, bind, Except.bind]

theorem fieldOf_succeeds_iff :
    (∃ field, fieldOf options t.name c (fieldNameOf options c) = .ok field) ↔ Mapped c := by
  refine ⟨fun ⟨field, hfield⟩ => ?_, fun hmapped => fieldOf_of_mapped options hmapped t.name⟩
  by_contra hmapped
  rw [fieldOf_of_not_mapped hmapped t] at hfield
  cases hfield

theorem fieldOf_eq_error_iff {e : UnsupportedType} :
    fieldOf options t.name c (fieldNameOf options c) = .error e ↔ ¬Mapped c ∧ e = unsupported t c := by
  by_cases hmapped : Mapped c
  · obtain ⟨field, hfield⟩ := fieldOf_of_mapped options hmapped t.name
    simp [hfield, hmapped]
  · simp [fieldOf_of_not_mapped hmapped t, hmapped, eq_comm]

theorem isFieldOf_of_fieldOf_eq_ok {table : String} {field : Field × List String}
    (hfield : fieldOf options table c (fieldNameOf options c) = .ok field) :
    IsFieldOf options c field.1 := by
  simp only [fieldOf, Attempt.bind_eq_ok_iff] at hfield
  obtain ⟨type, -, heq⟩ := hfield
  cases heq
  exact ⟨rfl, rfl, rfl, rfl⟩

/-- The fields of a table's columns, each with the packages its type needs. -/
def fieldsOf (options : Options) (t : Table) : Except UnsupportedType (List (Field × List String)) :=
  t.columns.mapM fun c => fieldOf options t.name c (fieldNameOf options c)

theorem fieldsOf_eq_error_iff {e : UnsupportedType} :
    fieldsOf options t = .error e ↔ ∃ before c after, t.columns = before ++ c :: after ∧
      (∀ b ∈ before, Mapped b) ∧ ¬Mapped c ∧ e = unsupported t c := by
  simp only [fieldsOf, Attempt.mapM_eq_error_iff, fieldOf_succeeds_iff, fieldOf_eq_error_iff]

theorem mapped_of_fieldsOf_eq_ok {fields : List (Field × List String)}
    (hfields : fieldsOf options t = .ok fields) : ∀ c ∈ t.columns, Mapped c := by
  rw [fieldsOf, Attempt.mapM_eq_ok_iff, List.forall₂_iff_get] at hfields
  intro c hc
  obtain ⟨i, hi, rfl⟩ := List.mem_iff_getElem.mp hc
  exact fieldOf_succeeds_iff.mp ⟨_, hfields.2 i hi (hfields.1 ▸ hi)⟩

theorem fieldsOf_succeeds_iff :
    (∃ fields, fieldsOf options t = .ok fields) ↔ ∀ c ∈ t.columns, Mapped c := by
  refine ⟨fun ⟨fields, hfields⟩ => mapped_of_fieldsOf_eq_ok hfields, fun hmapped => ?_⟩
  cases hfields : fieldsOf options t with
  | ok fields => exact ⟨fields, rfl⟩
  | error e =>
      obtain ⟨before, c, after, hcolumns, -, hc, -⟩ := fieldsOf_eq_error_iff.mp hfields
      exact absurd (hmapped c (by simp [hcolumns])) hc

theorem isFieldOf_of_fieldsOf_eq_ok {fields : List (Field × List String)}
    (hfields : fieldsOf options t = .ok fields) :
    List.Forall₂ (IsFieldOf options) t.columns (fields.map (·.1)) := by
  rw [fieldsOf, Attempt.mapM_eq_ok_iff] at hfields
  rw [List.forall₂_map_right_iff]
  exact hfields.imp fun _ _ hfield => isFieldOf_of_fieldOf_eq_ok hfield

/-! ### One struct -/

theorem map_name_map_fieldName :
    (t.columns.map (·.name)).map (Naming.fieldName · options.columnPrefixes) =
      t.columns.map (fieldNameOf options) := by
  rw [List.map_map]
  rfl

theorem fieldNames_of_nodup (hfields : (t.columns.map (fieldNameOf options)).Nodup) :
    Naming.fieldNames t.name (t.columns.map (·.name)) options.columnPrefixes =
      .ok (t.columns.map (fieldNameOf options)) := by
  rw [Naming.fieldNames, Naming.distinctNames_eq_ok_iff.mpr ⟨by rwa [map_name_map_fieldName], rfl⟩,
    map_name_map_fieldName]
  rfl

theorem map_name_map_structName :
    (tables.map (·.name)).map (Naming.structName · options.tablePrefixes) =
      tables.map (structNameOf options) := by
  rw [List.map_map]
  rfl

theorem find?_tableNameMethod {fields : List Field} {columns : List Column}
    (hfields : List.Forall₂ (IsFieldOf options) columns fields) :
    (fields.find? (·.name == Naming.tableNameMethod)).map (·.column) =
      (columns.find? (fieldNameOf options · == Naming.tableNameMethod)).map (·.name) := by
  induction hfields with
  | nil => rfl
  | cons hfield _ ih =>
      obtain ⟨hname, hcolumn, -⟩ := hfield
      simp only [List.find?_cons, hname]
      split
      · simp [hcolumn]
      · exact ih

section

variable [Naming.Inflection]

/-- The struct of a table once its fields are made. -/
def assemble (options : Options) (name : String) (t : Table) (fields : List (Field × List String)) :
    Except StructError Struct :=
  match (fields.map (·.1)).find? (·.name == Naming.tableNameMethod) with
  | some field =>
    if needsTableName options name t.name then
      .error (.naming (.method t.name field.column))
    else .ok (struct fields)
  | none => .ok (struct fields)
where
  struct (fields : List (Field × List String)) : Struct :=
    { name
      fields := fields.map (·.1)
      table := t.name
      package := options.package
      comment := t.comment
      namesTable := needsTableName options name t.name
      imports := sortedSet (fields.flatMap (·.2)) }

theorem structOf_of_nodup (hfields : (t.columns.map (fieldNameOf options)).Nodup) :
    structOf options t name = (fieldsOf options t).mapError .type >>= assemble options name t := by
  have hzip : (t.columns.zip (t.columns.map (fieldNameOf options))).mapM
      (fun pair => fieldOf options t.name pair.1 pair.2) = fieldsOf options t := by
    rw [← List.map_prod_left_eq_zip, List.mapM_map]
    rfl
  simp only [structOf, fieldNames_of_nodup hfields, Except.mapError, bind, Except.bind, hzip]
  cases fieldsOf options t with
  | error e => rfl
  | ok fields =>
      simp only [assemble]
      cases (fields.map (·.1)).find? (·.name == Naming.tableNameMethod) with
      | none => rfl
      | some field =>
          dsimp only
          by_cases htells : needsTableName options name t.name = true
          · rw [if_pos htells, if_pos htells]
            rfl
          · rw [if_neg htells, if_neg htells]
            rfl

theorem isStructOf_struct {fields : List (Field × List String)}
    (hfields : fieldsOf options t = .ok fields) :
    IsStructOf options name t (assemble.struct options name t fields) :=
  ⟨Iff.rfl, rfl, rfl, rfl, rfl, isFieldOf_of_fieldsOf_eq_ok hfields⟩

theorem structOf_of_acceptable (h : Acceptable options name t) :
    ∃ s, structOf options t name = .ok s ∧ IsStructOf options name t s := by
  obtain ⟨fields, hfields⟩ := fieldsOf_succeeds_iff.mpr h.types
  refine ⟨assemble.struct options name t fields, ?_, isStructOf_struct hfields⟩
  have hfind := find?_tableNameMethod (isFieldOf_of_fieldsOf_eq_ok hfields)
  rw [structOf_of_nodup h.fields, hfields]
  simp only [Except.mapError, bind, Except.bind, assemble]
  split
  case h_2 => rfl
  case h_1 field hfield =>
      rw [hfield] at hfind
      obtain ⟨c, hc, -⟩ := Option.map_eq_some_iff.mp hfind.symm
      have hmem : Naming.tableNameMethod ∈ t.columns.map (fieldNameOf options) :=
        List.mem_map.mpr ⟨c, List.mem_of_find?_eq_some hc, by simpa using List.find?_some hc⟩
      exact if_neg fun htells => h.method htells hmem

theorem structOf_of_tableFault {e : StructError} (h : TableFault options name t e) :
    structOf options t name = .error e := by
  cases h with
  | fields hrepeat =>
      simp only [structOf, Naming.fieldNames, Naming.distinctNames_eq_error_iff.mpr hrepeat, Except.mapError,
        bind, Except.bind]
  | type hfields hcolumns hbefore hc =>
      have herror : fieldsOf options t = .error (unsupported t _) :=
        fieldsOf_eq_error_iff.mpr ⟨_, _, _, hcolumns, hbefore, hc, rfl⟩
      rw [structOf_of_nodup hfields, herror]
      rfl
  | @method c hdistinct htypes htells hc hname =>
      obtain ⟨fields, hfields⟩ := fieldsOf_succeeds_iff.mpr htypes
      have hfind := find?_tableNameMethod (isFieldOf_of_fieldsOf_eq_ok hfields)
      rw [Naming.find?_of_nodup hdistinct hc hname] at hfind
      obtain ⟨field, hfield, hcolumn⟩ := Option.map_eq_some_iff.mp hfind
      rw [structOf_of_nodup hdistinct, hfields]
      simp only [Except.mapError, bind, Except.bind, assemble, hfield]
      rw [TellsTable] at htells
      rw [if_pos htells, hcolumn]

/-- A table is acceptable or has a fault. -/
theorem acceptable_or_tableFault (options : Options) (name : String) (t : Table) :
    Acceptable options name t ∨ ∃ e, TableFault options name t e := by
  cases hnames :
      Naming.distinctNames (Naming.fieldName · options.columnPrefixes) [] (t.columns.map (·.name)) with
  | error collision => exact .inr ⟨_, .fields (Naming.distinctNames_eq_error_iff.mp hnames)⟩
  | ok names =>
      have hfields : (t.columns.map (fieldNameOf options)).Nodup := by
        rw [← map_name_map_fieldName]
        exact (Naming.distinctNames_eq_ok_iff.mp hnames).1
      cases htypes : fieldsOf options t with
      | error e =>
          obtain ⟨before, c, after, hcolumns, hbefore, hc, -⟩ := fieldsOf_eq_error_iff.mp htypes
          exact .inr ⟨_, .type hfields hcolumns hbefore hc⟩
      | ok fields =>
          have hmapped := mapped_of_fieldsOf_eq_ok htypes
          by_cases hmethod :
              TellsTable options name t → Naming.tableNameMethod ∉ t.columns.map (fieldNameOf options)
          · exact .inl ⟨hfields, hmapped, hmethod⟩
          · obtain ⟨htells, hmem⟩ := Classical.not_imp.mp hmethod
            obtain ⟨c, hc, hname⟩ := List.mem_map.mp (not_not.mp hmem)
            exact .inr ⟨_, .method hfields hmapped htells hc hname⟩

theorem structOf_succeeds_iff :
    (∃ s, structOf options t name = .ok s) ↔ Acceptable options name t := by
  refine ⟨fun ⟨s, hs⟩ => ?_, fun h => ?_⟩
  · obtain h | ⟨e, he⟩ := acceptable_or_tableFault options name t
    · exact h
    · rw [structOf_of_tableFault he] at hs
      cases hs
  · obtain ⟨s, hs, -⟩ := structOf_of_acceptable h
    exact ⟨s, hs⟩

theorem structOf_eq_error_iff {e : StructError} :
    structOf options t name = .error e ↔ TableFault options name t e := by
  refine ⟨fun herror => ?_, structOf_of_tableFault⟩
  obtain h | ⟨e', he'⟩ := acceptable_or_tableFault options name t
  · obtain ⟨s, hs⟩ := structOf_succeeds_iff.mpr h
    rw [hs] at herror
    cases herror
  · rw [structOf_of_tableFault he'] at herror
    cases herror
    exact he'

theorem isStructOf_of_structOf_eq_ok {s : Struct}
    (hs : structOf options t name = .ok s) : IsStructOf options name t s := by
  obtain ⟨s', hs', hstruct⟩ := structOf_of_acceptable (structOf_succeeds_iff.mp ⟨s, hs⟩)
  rw [hs] at hs'
  cases hs'
  exact hstruct

theorem eq_struct_of_assemble_eq_ok {fields : List (Field × List String)} {s : Struct}
    (hs : assemble options name t fields = .ok s) : s = assemble.struct options name t fields := by
  unfold assemble at hs
  split at hs
  · split at hs
    · cases hs
    · exact (Except.ok.inj hs).symm
  · exact (Except.ok.inj hs).symm

/-- What a struct was put together from. -/
theorem exists_fieldsOf_of_structOf_eq_ok {s : Struct} (hs : structOf options t name = .ok s) :
    ∃ fields, fieldsOf options t = .ok fields ∧ s = assemble.struct options name t fields := by
  have hfields := (structOf_succeeds_iff.mp ⟨s, hs⟩).fields
  rw [structOf_of_nodup hfields, Attempt.bind_eq_ok_iff] at hs
  obtain ⟨fields, hfields, hs⟩ := hs
  cases hresult : fieldsOf options t with
  | error e =>
      rw [hresult] at hfields
      cases hfields
  | ok made =>
      rw [hresult] at hfields
      cases hfields
      exact ⟨_, rfl, eq_struct_of_assemble_eq_ok hs⟩

theorem fields_of_structOf_eq_ok {s : Struct} (hs : structOf options t name = .ok s) :
    List.Forall₂ (fun c f => ∃ imports, fieldOf options t.name c (fieldNameOf options c) = .ok (f, imports))
      t.columns s.fields := by
  obtain ⟨fields, hfields, rfl⟩ := exists_fieldsOf_of_structOf_eq_ok hs
  rw [fieldsOf, Attempt.mapM_eq_ok_iff] at hfields
  rw [assemble.struct, List.forall₂_map_right_iff]
  exact hfields.imp fun _ field hfield => ⟨field.2, hfield⟩

/-! ### A batch of structs -/

theorem structsOf_of_firstRepeat {collision : Naming.Collision}
    (hrepeat : Naming.FirstRepeat (Naming.structName · options.tablePrefixes) (tables.map (·.name))
      collision) :
    structsOf options tables = .error (.naming (.tables collision)) := by
  simp only [structsOf, Naming.structNames, Naming.distinctNames_eq_error_iff.mpr hrepeat, Except.mapError,
    bind, Except.bind]

theorem structsOf_of_nodup (hstructs : (tables.map (structNameOf options)).Nodup) :
    structsOf options tables = tables.mapM fun t => structOf options t (structNameOf options t) := by
  have hnames : Naming.structNames (tables.map (·.name)) options.tablePrefixes =
      .ok (tables.map (structNameOf options)) := by
    rw [Naming.structNames, Naming.distinctNames_eq_ok_iff.mpr ⟨by rwa [map_name_map_structName], rfl⟩,
      map_name_map_structName]
    rfl
  simp only [structsOf, hnames, Except.mapError, bind, Except.bind]
  rw [← List.map_prod_left_eq_zip, List.mapM_map]
  rfl

theorem structsOf_eq_error_iff {e : StructError} :
    structsOf options tables = .error e ↔ BatchFault options tables e := by
  cases hnames :
      Naming.distinctNames (Naming.structName · options.tablePrefixes) [] (tables.map (·.name)) with
  | error collision =>
      have hrepeat := Naming.distinctNames_eq_error_iff.mp hnames
      constructor
      · rw [structsOf_of_firstRepeat hrepeat]
        rintro ⟨⟩
        exact .structs hrepeat
      · rintro (hrepeat' | ⟨hstructs, -, -, -⟩)
        · exact structsOf_of_firstRepeat hrepeat'
        · rw [Naming.distinctNames_eq_ok_iff.mpr ⟨by rwa [map_name_map_structName], rfl⟩] at hnames
          cases hnames
  | ok names =>
      have hstructs : (tables.map (structNameOf options)).Nodup := by
        rw [← map_name_map_structName]
        exact (Naming.distinctNames_eq_ok_iff.mp hnames).1
      simp only [structsOf_of_nodup hstructs, Attempt.mapM_eq_error_iff, structOf_succeeds_iff,
        structOf_eq_error_iff]
      constructor
      · rintro ⟨before, t, after, htables, hbefore, hfault⟩
        exact .table hstructs htables hbefore hfault
      · rintro (hrepeat | ⟨-, htables, hbefore, hfault⟩)
        · rw [Naming.distinctNames_eq_error_iff.mpr hrepeat] at hnames
          cases hnames
        · exact ⟨_, _, _, htables, hbefore, hfault⟩

theorem nodup_of_structsOf_eq_ok {structs : List Struct} (hok : structsOf options tables = .ok structs) :
    (tables.map (structNameOf options)).Nodup := by
  cases hnames :
      Naming.distinctNames (Naming.structName · options.tablePrefixes) [] (tables.map (·.name)) with
  | error collision =>
      rw [structsOf_of_firstRepeat (Naming.distinctNames_eq_error_iff.mp hnames)] at hok
      cases hok
  | ok names =>
      rw [← map_name_map_structName]
      exact (Naming.distinctNames_eq_ok_iff.mp hnames).1

theorem isStructOf_of_structsOf_eq_ok {structs : List Struct} (hok : structsOf options tables = .ok structs) :
    List.Forall₂ (fun t => IsStructOf options (structNameOf options t) t) tables structs := by
  rw [structsOf_of_nodup (nodup_of_structsOf_eq_ok hok), Attempt.mapM_eq_ok_iff] at hok
  exact hok.imp fun _ _ => isStructOf_of_structOf_eq_ok

theorem acceptable_of_structsOf_eq_ok {structs : List Struct} (hok : structsOf options tables = .ok structs) :
    ∀ t ∈ tables, Acceptable options (structNameOf options t) t := by
  rw [structsOf_of_nodup (nodup_of_structsOf_eq_ok hok), Attempt.mapM_eq_ok_iff,
    List.forall₂_iff_get] at hok
  intro t ht
  obtain ⟨i, hi, rfl⟩ := List.mem_iff_getElem.mp ht
  exact structOf_succeeds_iff.mp ⟨_, hok.2 i hi (hok.1 ▸ hi)⟩

theorem structsOf_succeeds_iff :
    (∃ structs, structsOf options tables = .ok structs) ↔
      (tables.map (structNameOf options)).Nodup ∧
        ∀ t ∈ tables, Acceptable options (structNameOf options t) t := by
  constructor
  · rintro ⟨structs, hok⟩
    exact ⟨nodup_of_structsOf_eq_ok hok, acceptable_of_structsOf_eq_ok hok⟩
  rintro ⟨hstructs, hacceptable⟩
  cases hresult : structsOf options tables with
  | ok structs => exact ⟨structs, rfl⟩
  | error e =>
      rw [structsOf_of_nodup hstructs, Attempt.mapM_eq_error_iff] at hresult
      obtain ⟨before, t, after, htables, -, hfault⟩ := hresult
      obtain ⟨s, hs, -⟩ := structOf_of_acceptable (hacceptable t (by simp [htables]))
      rw [hs] at hfault
      cases hfault

/-- Structs are made of exactly the batches without a fault, one for each table with one field for each column
in their order; otherwise the error is the first fault, reported as what it is. -/
theorem structsOf_outcome (options : Options) (tables : List Table) :
    ((∃ structs, structsOf options tables = .ok structs) ↔
      (tables.map (structNameOf options)).Nodup ∧
        ∀ t ∈ tables, Acceptable options (structNameOf options t) t) ∧
    (∀ structs, structsOf options tables = .ok structs →
      List.Forall₂ (fun t => IsStructOf options (structNameOf options t) t) tables structs) ∧
    (∀ e, structsOf options tables = .error e ↔ BatchFault options tables e) ∧
    (∀ e, structsOf options tables = .error e → e.report.kind = match e with
      | .naming _ => .namingCollision
      | .type _ => .unsupportedType) := by
  refine ⟨structsOf_succeeds_iff, fun _ => isStructOf_of_structsOf_eq_ok,
    fun _ => structsOf_eq_error_iff, ?_⟩
  rintro (e | e) -
  · cases e <;> rfl
  · rfl

end

end GormModels.Go
