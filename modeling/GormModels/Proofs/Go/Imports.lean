import GormModels.Naming.Plural
import GormModels.Proofs.Go.Lines
import GormModels.Proofs.Options

/-!
# Imports of a source file

A file must import every package that it uses and no other. Which packages a field needs is worked out beside
its type and not from it, so the two have to agree for each type that a field can have.
-/

namespace GormModels.Go

variable {options : Options} {tables : List Table} {s : Struct} {structs : List Struct}

/-- The lines of a source text between the one that opens its import block and the one that ends it. -/
def importBlock (text : String) : List (List Char) :=
  (((linesOf text).dropWhile (· != "import (".toList)).drop 1).takeWhile (· != ")".toList)

/-- The lines of a source text that start an import. -/
def importClauses (text : String) : List (List Char) :=
  (linesOf text).filter ("import".toList.isPrefixOf ·)

/-- Some field has a type of `database/sql`. -/
def UsesSql (structs : List Struct) : Prop :=
  ∃ s ∈ structs, ∃ f ∈ s.fields, "sql.".toList <+: f.type.toList

/-- Some field holds a time, or points to one. -/
def UsesTime (structs : List Struct) : Prop :=
  ∃ s ∈ structs, ∃ f ∈ s.fields, f.type = "time.Time" ∨ f.type = "*time.Time"

/-! ### The packages of the structs -/

/-- The packages that a type needs, told by the type alone. -/
def packagesOf (type : String) : List String :=
  (if "sql.".toList <+: type.toList then [sqlPackage] else []) ++
    (if type = "time.Time" ∨ type = "*time.Time" then [timePackage] else [])

theorem imports_resolved : ∀ entry ∈ typeTable, ∀ resolved ∈ entry.2.resolutions,
    resolved.imports = packagesOf resolved.text := by
  decide +kernel

theorem imports_of_fieldOf_eq_ok {table name : String} {c : Column} {field : Field × List String}
    (hfield : fieldOf options table c name = .ok field) : field.2 = packagesOf field.1.type := by
  simp only [fieldOf, Attempt.bind_eq_ok_iff] at hfield
  obtain ⟨resolved, hresolve, hfield⟩ := hfield
  cases hfield
  exact of_resolutions imports_resolved hresolve

theorem mem_sortedSet {texts : List String} {text : String} : text ∈ sortedSet texts ↔ text ∈ texts := by
  rw [sortedSet, List.mem_mergeSort, List.mem_eraseDups]

theorem nodup_eraseDups (texts : List String) : texts.eraseDups.Nodup := by
  match texts with
  | [] => simp
  | text :: rest =>
      rw [List.eraseDups_cons, List.nodup_cons]
      exact ⟨by simp, nodup_eraseDups (rest.filter fun other => !other == text)⟩
termination_by texts.length
decreasing_by exact Nat.lt_succ_of_le (List.length_filter_le _ _)

theorem pairwise_sortedSet (texts : List String) : (sortedSet texts).Pairwise (· < ·) := by
  have hsorted : (sortedSet texts).Pairwise (· ≤ ·) := by
    have hpairs : (sortedSet texts).Pairwise fun a b => decide (a ≤ b) = true :=
      List.pairwise_mergeSort (by simpa using fun a b c => String.le_trans) (by simpa using String.le_total) _
    simpa using hpairs
  have hnodup : (sortedSet texts).Nodup := (List.mergeSort_perm _ _).nodup_iff.mpr (nodup_eraseDups texts)
  exact (hsorted.and hnodup).imp fun hpair => Std.lt_of_le_of_ne hpair.1 hpair.2

theorem mem_imports_iff [Naming.Inflection] {t : Table} {name path : String} (hs : structOf options t name = .ok s) :
    path ∈ s.imports ↔ ∃ f ∈ s.fields, path ∈ packagesOf f.type := by
  obtain ⟨fields, hfields, rfl⟩ := exists_fieldsOf_of_structOf_eq_ok hs
  have hpackages : ∀ field ∈ fields, field.2 = packagesOf field.1.type := by
    intro field hfield
    obtain ⟨c, -, hc⟩ := Attempt.exists_of_forall₂_of_mem (Attempt.mapM_eq_ok_iff.mp hfields).flip hfield
    exact imports_of_fieldOf_eq_ok hc
  simp only [assemble.struct, mem_sortedSet, List.mem_flatMap, List.mem_map]
  constructor
  · rintro ⟨field, hfield, hpath⟩
    exact ⟨_, ⟨field, hfield, rfl⟩, hpackages field hfield ▸ hpath⟩
  · rintro ⟨_, ⟨field, hfield, rfl⟩, hpath⟩
    exact ⟨field, hfield, (hpackages field hfield).symm ▸ hpath⟩

/-- The packages of a batch are those that the types of its fields tell. -/
theorem mem_importsOf_iff [Naming.Inflection] (hstructs : structsOf options tables = .ok structs)
    {path : String} :
    path ∈ importsOf structs ↔ path = sqlPackage ∧ UsesSql structs ∨ path = timePackage ∧ UsesTime structs := by
  have hmade : ∀ s ∈ structs, (path ∈ s.imports ↔ ∃ f ∈ s.fields, path ∈ packagesOf f.type) := by
    rw [structsOf_of_nodup (nodup_of_structsOf_eq_ok hstructs), Attempt.mapM_eq_ok_iff] at hstructs
    intro s hs
    obtain ⟨t, -, hs⟩ := Attempt.exists_of_forall₂_of_mem hstructs.flip hs
    exact mem_imports_iff hs
  have hpackages : path ∈ importsOf structs ↔ ∃ s ∈ structs, ∃ f ∈ s.fields, path ∈ packagesOf f.type := by
    rw [importsOf, mem_sortedSet, List.mem_flatMap]
    exact exists_congr fun s => and_congr_right fun hs => hmade s hs
  simp only [hpackages, packagesOf, List.mem_append, List.mem_ite_nil_right, List.mem_singleton, UsesSql, UsesTime]
  constructor
  · rintro ⟨s, hs, f, hf, ⟨huses, rfl⟩ | ⟨huses, rfl⟩⟩
    · exact .inl ⟨rfl, s, hs, f, hf, huses⟩
    · exact .inr ⟨rfl, s, hs, f, hf, huses⟩
  · rintro (⟨rfl, s, hs, f, hf, huses⟩ | ⟨rfl, s, hs, f, hf, huses⟩)
    · exact ⟨s, hs, f, hf, .inl ⟨huses, rfl⟩⟩
    · exact ⟨s, hs, f, hf, .inr ⟨huses, rfl⟩⟩

/-! ### The lines of the import block -/

/-- A line that starts with another letter starts no import. -/
theorem not_import_append {key : String} {c : Char} (hkey : key.toList.head? = some c) (hc : c ≠ 'i')
    (text : String) : ¬"import".toList <+: (key ++ text).toList := by
  rintro ⟨rest, heq⟩
  have hhead : (key ++ text).toList.head? = some 'i' := by rw [← heq]; rfl
  rw [String.toList_append, List.head?_append, hkey] at hhead
  exact hc (Option.some.inj hhead)

theorem not_import_of_mem_structLines {line : String} (hline : line ∈ structLines s) :
    ¬"import".toList <+: line.toList := by
  obtain ⟨comment, -, -, rfl⟩ | rfl | ⟨f, -, rfl⟩ | ⟨-, rfl⟩ | rfl | rfl | rfl := mem_structLines hline
  · rw [String.append_assoc, String.append_assoc]
    exact not_import_append rfl (by decide) _
  · rw [String.append_assoc]
    exact not_import_append rfl (by decide) _
  · exact not_import_append rfl (by decide) _
  · rw [String.append_assoc]
    exact not_import_append rfl (by decide) _
  · exact not_import_append rfl (by decide) _
  · decide
  · decide

/-- The lines of a file behind its imports. -/
def declarationLines (structs : List Struct) : List (List Char) :=
  (structs.flatMap fun s => "" :: structLines s).map String.toList ++ [[]]

theorem not_import_of_mem_declarationLines {line : List Char} (hline : line ∈ declarationLines structs) :
    ¬"import".toList <+: line := by
  simp only [declarationLines, List.mem_append, List.mem_map, List.mem_flatMap, List.mem_cons,
    List.not_mem_nil, or_false] at hline
  obtain ⟨text, ⟨s, -, rfl | htext⟩, rfl⟩ | rfl := hline
  · decide
  · exact not_import_of_mem_structLines htext
  · decide

section

variable {package : String} (hpackage : OneLine package) (hstructs : ∀ s ∈ structs, s.OneLine)

include hpackage hstructs

/-- The lines before the one that opens the import block, where there is one. -/
theorem linesOf_source_eq_append : linesOf (source package structs) =
    ("package " ++ package).toList :: (importLines (importsOf structs)).map String.toList ++
      declarationLines structs := by
  rw [linesOf_source hpackage hstructs, sourceLines, declarationLines]
  simp

theorem linesOf_source_of_imports (himports : importsOf structs ≠ []) : linesOf (source package structs) =
    [("package " ++ package).toList, []] ++ "import (".toList ::
      ((importsOf structs).map (fun path => ("\t" ++ stringLiteral path).toList) ++
        ")".toList :: declarationLines structs) := by
  rw [linesOf_source_eq_append hpackage hstructs, importLines, if_neg (by simpa using himports)]
  simp

theorem importBlock_source : importBlock (source package structs) =
    (importsOf structs).map fun path => ("\t" ++ stringLiteral path).toList := by
  have hdeclaration : ∀ line ∈ declarationLines structs, line ≠ "import (".toList := by
    rintro line hline rfl
    exact not_import_of_mem_declarationLines hline (by decide)
  by_cases himports : importsOf structs = []
  · have hlines : (linesOf (source package structs)).dropWhile (· != "import (".toList) = [] := by
      rw [linesOf_source_eq_append hpackage hstructs, himports, List.dropWhile_eq_nil_iff]
      intro line hline
      obtain rfl | hline := List.mem_cons.mp hline
      · simp
      · simpa using hdeclaration line hline
    rw [importBlock, hlines, himports]
    rfl
  · have hliteral : ∀ line ∈ (importsOf structs).map (fun path => ("\t" ++ stringLiteral path).toList),
        line ≠ ")".toList := by
      intro line hline heq
      obtain ⟨path, -, rfl⟩ := List.mem_map.mp hline
      rw [String.toList_append] at heq
      exact absurd (List.cons.inj heq).1 (by decide)
    rw [importBlock, linesOf_source_of_imports hpackage hstructs himports,
      List.dropWhile_append_of_pos (by simp), List.dropWhile_cons_of_neg (by simp),
      List.drop_one, List.tail_cons, List.takeWhile_append_of_pos (by simpa only [bne_iff_ne] using hliteral),
      List.takeWhile_cons_of_neg (by simp), List.append_nil]

theorem importClauses_source : importClauses (source package structs) =
    if importsOf structs = [] then [] else ["import (".toList] := by
  have hdeclaration : ∀ line ∈ declarationLines structs, ¬"import".toList <+: line := fun _ =>
    not_import_of_mem_declarationLines
  by_cases himports : importsOf structs = []
  · rw [if_pos himports, importClauses, linesOf_source_eq_append hpackage hstructs, himports]
    simpa [importLines] using hdeclaration
  · rw [if_neg himports, importClauses, linesOf_source_of_imports hpackage hstructs himports]
    simpa using hdeclaration

end

/-- The import block of a file names the packages that the types of its fields need, in order and each once;
where they need none there is no such block. -/
theorem imports_of_source [Naming.Inflection] [Validator] {entries : List (String × Value)}
    (hoptions : Options.ofEntries entries = .ok options)
    (hstructs : structsOf options tables = .ok structs) :
    ∃ paths : List String,
      importBlock (source options.package structs) = paths.map (fun path => ("\t\"" ++ path ++ "\"").toList) ∧
      importClauses (source options.package structs) = (if paths = [] then [] else ["import (".toList]) ∧
      paths.Pairwise (· < ·) ∧
      ("database/sql" ∈ paths ↔ UsesSql structs) ∧
      ("time" ∈ paths ↔ UsesTime structs) ∧
      ∀ path ∈ paths, path = "database/sql" ∨ path = "time" := by
  have hpackage : OneLine options.package := fun hnewline =>
    absurd (Options.isNameChar_of_ofEntries_eq_ok hoptions _ hnewline) (by decide)
  have hlines := Struct.oneLine_of_structsOf_eq_ok hstructs
  have hpaths : ∀ path ∈ importsOf structs, path = sqlPackage ∨ path = timePackage := by
    intro path hpath
    obtain ⟨hpath, -⟩ | ⟨hpath, -⟩ := (mem_importsOf_iff hstructs).mp hpath
    · exact .inl hpath
    · exact .inr hpath
  refine ⟨importsOf structs, ?_, importClauses_source hpackage hlines, pairwise_sortedSet _, ?_, ?_, hpaths⟩
  · rw [importBlock_source hpackage hlines]
    refine List.map_congr_left fun path hpath => ?_
    obtain rfl | rfl := hpaths path hpath <;> decide
  · exact (mem_importsOf_iff hstructs).trans (by simp [sqlPackage, timePackage])
  · exact (mem_importsOf_iff hstructs).trans (by simp [sqlPackage, timePackage])

/-- A time that may be left out, and a number that has to be given. -/
def visitTable : Table :=
  { name := "visit"
    columns := [{ name := "left", typeName := "DATETIME", nullable := true }, { name := "guests", typeName := "INT" }] }

def visitOptions : Options := { nullStyle := .pointer, forceTableName := true }

def visitStruct : Struct :=
  { name := "Visit"
    fields :=
      [{ name := "Left", type := "*time.Time", tag := "gorm:\"column:left\"", column := "left" },
       { name := "Guests", type := "int32", tag := "gorm:\"column:guests;NOT NULL\"", column := "guests" }]
    table := "visit"
    package := "model"
    namesTable := true
    imports := ["time"] }

theorem imports_of_source_visit : ∃ paths : List String,
    importBlock (source "model" [visitStruct]) = paths.map (fun path => ("\t\"" ++ path ++ "\"").toList) ∧
    importClauses (source "model" [visitStruct]) = (if paths = [] then [] else ["import (".toList]) ∧
    paths.Pairwise (· < ·) ∧
    ("database/sql" ∈ paths ↔ UsesSql [visitStruct]) ∧
    ("time" ∈ paths ↔ UsesTime [visitStruct]) ∧
    ∀ path ∈ paths, path = "database/sql" ∨ path = "time" := by
  have hoptions : Options.ofEntries [("null_style", .text "ptr"), ("force_table_name", .bool true)] =
      .ok visitOptions := rfl
  have hstructs : structsOf visitOptions [visitTable] = .ok [visitStruct] := by decide +kernel
  have himports := imports_of_source hoptions hstructs
  exact himports

end GormModels.Go
