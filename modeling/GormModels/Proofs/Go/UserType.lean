import GormModels.Proofs.Go.Type
import GormModels.Proofs.Schema.Columns
import GormModels.Proofs.Sql.Attribute
import GormModels.Proofs.Sql.Tables
import GormModels.Sql.Mysql

/-!
# Types that the dialect does not know

A column whose type is left to the user by a word has no Go type, and the report names the word in upper case. The
exceptions are words that read like a type with a Go type: like its name, which a dialect leaves to the user only
where it is quoted, if at all, or like the name of its unsigned form, for which a U is put before it.
-/

namespace GormModels.Go

/-! ### Unsigned types -/

theorem stripUnsigned_of_mem {base : String} (h : base ∈ unsignedCapable) :
    stripUnsigned ("U" ++ base) = (base, true) := by
  have hcheck : ∀ base ∈ unsignedCapable, stripUnsigned ("U" ++ base) = (base, true) := by decide +kernel
  exact hcheck base h

theorem stripUnsigned_of_ne {name : String} (h : ∀ base ∈ unsignedCapable, name ≠ "U" ++ base) :
    stripUnsigned name = (name, false) := by
  rw [stripUnsigned]
  split
  case h_1 rest hname =>
      rw [if_neg]
      intro hbase
      refine h _ hbase (String.toList_inj.mp ?_)
      simp [hname]
  case h_2 => rfl

/-- The names of the types that have a Go type. -/
def mappedNames : List String := typeTable.map (·.1.1)

theorem lookup_typeTable_eq_none {name : String} (hname : name ∉ mappedNames) (unsigned : Bool) :
    typeTable.lookup (name, unsigned) = none := by
  rw [Attempt.lookup_eq_none_iff]
  intro hmem
  obtain ⟨entry, hentry, heq⟩ := List.mem_map.mp hmem
  exact hname (List.mem_map.mpr ⟨entry, hentry, congrArg Prod.fst heq⟩)

/-! ### Words for types -/

/-- What `lookupType` makes of a column whose type is left to the user by a word. -/
structure RefusesWord (word : String) (column : Column) : Prop where
  /-- The type is reported by the word in upper case. -/
  refused : Text.upperText word ∉ mappedNames → (∀ base ∈ unsignedCapable, Text.upperText word ≠ "U" ++ base) →
    ∀ table, lookupType column table = .error ⟨Text.upperText word, table, column.name⟩
  /-- A word that reads like an unsigned type gets the Go type of that. -/
  taken : ∀ base ∈ unsignedCapable, Text.upperText word = "U" ++ base → ∀ table,
    ∃ type, typeTable.lookup (base, true) = some type ∧ lookupType column table = .ok type
  /-- A word that reads like the name of a type gets its Go type. -/
  named : Text.upperText word ∈ mappedNames → ∀ table,
    ∃ type, typeTable.lookup (Text.upperText word, false) = some type ∧ lookupType column table = .ok type

theorem refusesWord {word : String} {column : Column}
    (htype : (column.typeName, column.unsigned) = stripUnsigned (Text.upperText word)) :
    RefusesWord word column where
  refused hword hbases table := by
    rw [stripUnsigned_of_ne hbases, Prod.mk.injEq] at htype
    have hnone : typeTable.lookup (column.typeName, column.unsigned) = none := by
      rw [htype.1]
      exact lookup_typeTable_eq_none hword _
    rw [lookupType, hnone, htype.1, htype.2]
    rfl
  taken base hbase hspelled table := by
    rw [hspelled, stripUnsigned_of_mem hbase] at htype
    have htypes : ∀ base ∈ unsignedCapable, (typeTable.lookup (base, true)).isSome := by decide +kernel
    obtain ⟨type, hlookup⟩ := Option.isSome_iff_exists.mp (htypes base hbase)
    refine ⟨type, hlookup, ?_⟩
    rw [lookupType, htype, hlookup]
  named hword table := by
    have hapart : ∀ name ∈ mappedNames, ∀ base ∈ unsignedCapable, name ≠ "U" ++ base := by decide +kernel
    have htypes : ∀ name ∈ mappedNames, (typeTable.lookup (name, false)).isSome := by decide +kernel
    rw [stripUnsigned_of_ne (hapart _ hword)] at htype
    obtain ⟨type, hlookup⟩ := Option.isSome_iff_exists.mp (htypes _ hword)
    refine ⟨type, hlookup, ?_⟩
    rw [lookupType, htype, hlookup]

/-- Columns whose type is left to the user are refused with the word for it, in every table that a text declares; only
a word that reads like a type with a Go type is not. -/
theorem refusesWord_of_parseTables [Sql.Dialect] {text : String} {options : Options}
    {declarations : List TableDeclaration} {tables : List Table} (hparse : Sql.parseTables text = .ok declarations)
    (hbuild : buildTables options declarations = .ok tables) :
    ∃ statements, Sql.statementsIn text = .ok statements ∧
      List.Forall₂ (fun (d : Sql.TableDefinition) (table : Table) =>
          List.Forall₂ (fun (c : Sql.ColumnDefinition) column =>
            ∀ word, c.userWord? = some word → RefusesWord word column) (Sql.columnsOf d.items) table.columns)
        (statements.filterMap Sql.Statement.definition?) tables := by
  obtain ⟨statements, hstatements, hdefined⟩ := Sql.definitions_of_parseTables hparse
  have hbuilt := Attempt.forall₂_comp_iff.mpr ⟨_, hdefined, isColumnOf_of_buildTables_eq_ok hbuild⟩
  refine ⟨statements, hstatements, hbuilt.imp ?_⟩
  rintro d table ⟨t, hdeclare, hkept⟩
  refine (Attempt.forall₂_comp_iff.mpr ⟨_, Sql.columns_of_declare hdeclare, hkept⟩).imp ?_
  rintro c column ⟨declared, hcolumn, hof⟩ word hword
  have htype := hof.type
  rw [Sql.typeName_of_userWord hword hcolumn] at htype
  exact refusesWord htype

/-- The declaration of a table with one column that says nothing but its type. -/
def soleDeclaration (table column typeName typeText : String) : TableDeclaration :=
  { name := table, columns := [{ name := column, typeName, typeText }] }

def soleTable (table column typeName typeText : String) (unsigned : Bool) : Table :=
  let charset := some "utf8mb4"
  let collation := some "utf8mb4_general_ci"
  { name := table
    columns := [{ name := column, typeName, typeText, nullable := true, unsigned, charset, collation }]
    charset
    collation }

theorem refusesWord_spot : ∃ statements, Sql.statementsIn "CREATE TABLE place (spot Point)" = .ok statements ∧
    List.Forall₂ (fun (d : Sql.TableDefinition) (table : Table) =>
        List.Forall₂ (fun (c : Sql.ColumnDefinition) column =>
          ∀ word, c.userWord? = some word → RefusesWord word column) (Sql.columnsOf d.items) table.columns)
      (statements.filterMap Sql.Statement.definition?) [soleTable "place" "spot" "POINT" "Point" false] := by
  have hparse : Sql.parseTables "CREATE TABLE place (spot Point)" =
      .ok [soleDeclaration "place" "spot" "POINT" "Point"] := by decide +kernel
  have hbuild : buildTables {} [soleDeclaration "place" "spot" "POINT" "Point"] =
      .ok [soleTable "place" "spot" "POINT" "Point" false] := by decide +kernel
  exact refusesWord_of_parseTables hparse hbuild

/-- A word of the user's that reads like the unsigned form of a known type gets the Go type of that. -/
theorem lookupType_takes_ufloat :
    (Sql.statementsIn "CREATE TABLE place (rise UFLOAT)").toOption.map (fun statements =>
        (statements.filterMap Sql.Statement.definition?).map fun d =>
          (Sql.columnsOf d.items).map Sql.ColumnDefinition.userWord?) = some [[some "UFLOAT"]] ∧
      Sql.parseTables "CREATE TABLE place (rise UFLOAT)" =
        .ok [soleDeclaration "place" "rise" "UFLOAT" "UFLOAT"] ∧
      buildTables {} [soleDeclaration "place" "rise" "UFLOAT" "UFLOAT"] =
        .ok [soleTable "place" "rise" "FLOAT" "UFLOAT" true] ∧
      ∀ column ∈ (soleTable "place" "rise" "FLOAT" "UFLOAT" true).columns, ∀ table,
        lookupType column table = .ok (.ofNumber "float32" "sql.NullFloat64") := by
  refine ⟨by decide +kernel, by decide +kernel, by decide +kernel, ?_⟩
  intro column hcolumn table
  obtain rfl := List.mem_singleton.mp hcolumn
  rfl

end GormModels.Go
