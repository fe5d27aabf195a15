import GormModels.Naming.Plural
import GormModels.Proofs.Go.Settings
import GormModels.Proofs.Go.StructOutcome
import GormModels.Proofs.Go.Type
import GormModels.Proofs.Schema.Columns

/-!
# Nulls from a declaration to its field

Whether a column may be null is worked out when its table is built, and told twice afterwards: by the type of
its field and by a setting in the field's tag. Both have to say the same.
-/

namespace GormModels.Go

variable {options : Options} {t : TableDeclaration} {c : ColumnDeclaration} {column : Column} {f : Field}

/-- The type has a value for null: it is a pointer, a wrapper of `database/sql` or a slice of bytes. -/
def HoldsNull (type : String) : Prop :=
  "*".toList <+: type.toList ∨ "sql.Null".toList <+: type.toList ∨ type = "[]byte"

instance (type : String) : Decidable (HoldsNull type) := inferInstanceAs (Decidable (_ ∨ _ ∨ _))

/-- The settings of a tag for the object mapper, which semicolons part. -/
def settingsOf (tag : String) : List (List Char) := tag.toList.splitOn ';'

/-- No text of the column's that its tag repeats has a semicolon. -/
structure FreeOfSemicolons (c : ColumnDeclaration) : Prop where
  name : ';' ∉ c.name.toList
  typeText : ';' ∉ c.typeText.toList
  default : ∀ text ∈ c.default, ';' ∉ text.toList

/-- The type and the tag of a column's field tell whether the column may be null. -/
structure KeepsNullability (options : Options) (t : TableDeclaration) (c : ColumnDeclaration) (column : Column)
    (f : Field) : Prop where
  type : ∃ type, typeTable.lookup (stripUnsigned c.typeName) = some type ∧
    if Required t c then f.type = type.base else HoldsNull f.type
  tag : f.tag = fieldTag options column f.jsonName
  setting : FreeOfSemicolons c → ("NOT NULL".toList ∈ settingsOf (gormTag options column) ↔ Required t c)

/-! ### Types -/

theorem holdsNull_pointer (base : String) : HoldsNull ("*" ++ base) :=
  .inl (by simp [String.toList_append])

theorem sqlNull_prefix_wrapped : ∀ entry ∈ typeTable, ∀ wrapped ∈ entry.2.wrapped,
    "sql.Null".toList <+: wrapped.toList := by
  decide

theorem base_of_nilable : ∀ entry ∈ typeTable, entry.2.nilable = true → entry.2.base = "[]byte" := by
  decide

/-- A column has its plain type unless it may be null, and then its type has a value for null. -/
theorem holdsNull_of_resolveType_eq_ok {c : Column} {table : Option String} {resolved : ResolvedType}
    (hplain : options.noNullType = false) (hresolve : resolveType options c table = .ok resolved) :
    ∃ type, typeTable.lookup (c.typeName, c.unsigned) = some type ∧
      if c.nullable then HoldsNull resolved.text else resolved.text = type.base := by
  simp only [resolveType, Attempt.bind_eq_ok_iff] at hresolve
  obtain ⟨type, hlookup, hresolve⟩ := hresolve
  have htype := lookup_of_lookupType_eq_ok hlookup
  have hmem := Attempt.mem_of_lookup_eq_some htype
  refine ⟨type, htype, ?_⟩
  cases hnullable : c.nullable with
  | false =>
      simp only [hnullable, Bool.not_false, Bool.true_or, if_true] at hresolve
      cases hresolve
      simp
  | true =>
      rw [if_pos rfl]
      simp only [hnullable, hplain, Bool.not_true, Bool.false_or] at hresolve
      split at hresolve
      case isTrue hnilable =>
          cases hresolve
          exact .inr (.inr (base_of_nilable _ hmem hnilable))
      case isFalse =>
          split at hresolve
          case h_1 wrapped _ hwrapped =>
              split at hresolve
              case isTrue =>
                  cases hresolve
                  exact holdsNull_pointer _
              case isFalse =>
                  cases hresolve
                  exact .inr (.inl (sqlNull_prefix_wrapped _ hmem wrapped hwrapped))
          case h_2 =>
              cases hresolve
              exact holdsNull_pointer _

/-! ### Settings -/

theorem settingsOf_gormTag
    (hsettings : ∀ setting ∈ columnSettings options column, ';' ∉ setting.toList) :
    settingsOf (gormTag options column) = (columnSettings options column).map String.toList := by
  rw [settingsOf, gormTag, String.toList_intercalate]
  refine List.splitOn_intercalate ';' ?_ (by simp [columnSettings])
  simpa using hsettings

theorem append_ne_notNull {key : String} (hkey : ¬key.toList <+: "NOT NULL".toList) (text : String) :
    "NOT NULL" ≠ key ++ text := by
  intro heq
  rw [heq, String.toList_append] at hkey
  exact hkey (List.prefix_append _ _)

/-- No other setting reads like the one of a column that may not be null. -/
theorem notNull_mem_columnSettings_iff :
    "NOT NULL" ∈ columnSettings options column ↔ column.nullable = false := by
  rw [mem_columnSettings_iff]
  constructor
  · rintro (heq | ⟨-, heq⟩ | ⟨-, heq⟩ | ⟨-, heq⟩ | ⟨-, heq⟩ | ⟨hnullable, -⟩ | ⟨text, -, heq⟩)
    · exact absurd heq (append_ne_notNull (by decide) _)
    · exact absurd heq (append_ne_notNull (by decide) _)
    · exact absurd heq (by decide)
    · exact absurd heq (by decide)
    · exact absurd heq (by decide)
    · exact hnullable
    · exact absurd heq (append_ne_notNull (by decide) _)
  · intro hnullable
    simp [hnullable]

/-! ### Fields -/

theorem keepsNullability_of_isColumnOf (hplain : options.noNullType = false) {table name : String}
    {imports : List String} (hcolumn : IsColumnOf t c column)
    (hfield : fieldOf options table column name = .ok (f, imports)) :
    KeepsNullability options t c column f := by
  simp only [fieldOf, Attempt.bind_eq_ok_iff] at hfield
  obtain ⟨resolved, hresolve, hfield⟩ := hfield
  cases hfield
  obtain ⟨type, htype, htext⟩ := holdsNull_of_resolveType_eq_ok hplain hresolve
  rw [hcolumn.type] at htype
  refine ⟨⟨type, htype, ?_⟩, rfl, fun hfree => ?_⟩
  · by_cases hrequired : Required t c
    · simpa [hrequired, hcolumn.nullable] using htext
    · simpa [hrequired, hcolumn.nullable] using htext
  · have hsettings : ∀ setting ∈ columnSettings options column, ';' ∉ setting.toList := by
      refine (forall_columnSettings_iff (by decide)).mpr fun text htext => ?_
      obtain rfl | ⟨-, rfl⟩ | hdefault := mem_tagTexts_iff.mp htext
      · rw [hcolumn.name]
        exact hfree.name
      · rw [hcolumn.typeText]
        exact hfree.typeText
      · rw [hcolumn.default] at hdefault
        exact hfree.default text hdefault
    rw [settingsOf_gormTag hsettings, List.mem_map_of_injective fun _ _ => String.toList_inj.mp,
      notNull_mem_columnSettings_iff, ← Bool.not_eq_true, hcolumn.nullable, not_not]

/-- Every field of a batch tells whether its column may be null, by its type and by its tag alike. -/
theorem keepsNullability_of_structsOf_eq_ok [Naming.Inflection] {declarations : List TableDeclaration}
    {tables : List Table} {structs : List Struct} (hplain : options.noNullType = false)
    (htables : buildTables options declarations = .ok tables)
    (hstructs : structsOf options tables = .ok structs) :
    List.Forall₂ (fun t built =>
        List.Forall₂ (fun c made => KeepsNullability options t c made.1 made.2) t.columns
          (built.1.columns.zip built.2.fields))
      declarations (tables.zip structs) := by
  have hmade := hstructs
  rw [structsOf_of_nodup (nodup_of_structsOf_eq_ok hstructs), Attempt.mapM_eq_ok_iff] at hmade
  refine (Attempt.forall₂_zip (isColumnOf_of_buildTables_eq_ok htables) hmade).imp ?_
  rintro t ⟨table, s⟩ ⟨hcolumns, hs⟩
  refine (Attempt.forall₂_zip hcolumns (fields_of_structOf_eq_ok hs)).imp ?_
  rintro c ⟨column, f⟩ ⟨hcolumn, imports, hfield⟩
  exact keepsNullability_of_isColumnOf hplain hcolumn hfield

/-- A key that is never null for being one, a column that has to be given, and one that may be left out. -/
def ledger : TableDeclaration :=
  { name := "ledger"
    columns :=
      [{ name := "id", typeName := "UBIGINT", typeText := "BIGINT" },
       { name := "holder", typeName := "VARCHAR", typeText := "VARCHAR(40)", notNull := true },
       { name := "closed", typeName := "DATETIME", typeText := "DATETIME" }]
    primaryKey := ["id"] }

def ledgerTable : Table :=
  { name := "ledger"
    columns :=
      [{ name := "id", typeName := "BIGINT", typeText := "BIGINT", unsigned := true, isPrimaryKey := true
         charset := "utf8mb4", collation := "utf8mb4_general_ci" },
       { name := "holder", typeName := "VARCHAR", typeText := "VARCHAR(40)"
         charset := "utf8mb4", collation := "utf8mb4_general_ci" },
       { name := "closed", typeName := "DATETIME", typeText := "DATETIME", nullable := true
         charset := "utf8mb4", collation := "utf8mb4_general_ci" }]
    charset := "utf8mb4"
    collation := "utf8mb4_general_ci"
    primaryKey := ["id"] }

def ledgerStruct : Struct :=
  { name := "Ledger"
    fields :=
      [{ name := "ID", type := "uint64", tag := "gorm:\"column:id;primary_key;NOT NULL\"", column := "id" },
       { name := "Holder", type := "string", tag := "gorm:\"column:holder;NOT NULL\"", column := "holder" },
       { name := "Closed", type := "*time.Time", tag := "gorm:\"column:closed\"", column := "closed" }]
    table := "ledger"
    package := "model"
    namesTable := true
    imports := ["time"] }

theorem keepsNullability_ledger :
    List.Forall₂ (fun t built =>
        List.Forall₂
          (fun c made => KeepsNullability { nullStyle := .pointer, forceTableName := true } t c made.1 made.2) t.columns
          (built.1.columns.zip built.2.fields))
      [ledger] ([ledgerTable].zip [ledgerStruct]) :=
  keepsNullability_of_structsOf_eq_ok rfl (by decide +kernel) (by decide +kernel)

end GormModels.Go
