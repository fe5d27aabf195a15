import GormModels.Naming.Plural
import GormModels.Proofs.Go.Lines
import GormModels.Proofs.Go.Literal
import GormModels.Proofs.Go.Settings
import GormModels.Proofs.Naming.GoName
import GormModels.Proofs.Naming.JsonName

/-!
# The line of a field

Name, type and tag stand in one line, the tag as a literal between backticks. The tag escapes what would end the
line or the literal. It does not escape carriage returns, which such a literal drops, so a tag comes back as it
was only where no text of the column has one.
-/

namespace GormModels.Go

open Text

variable {options : Options} {t : Table} {c : Column} {f : Field} {s : Struct}

def closingCodes : List Nat := [')'.toNat, '\x60'.toNat]

theorem caseFree_closingCodes : CaseFree closingCodes :=
  ⟨by decide, by decide, by decide +kernel, by decide +kernel, by decide⟩

theorem not_mem_goNameText {d : Char} (hd : d.toNat ∈ closingCodes) (identifier : String) :
    d ∉ (Naming.goNameText identifier).toList := by
  rw [Naming.goNameText, String.toList_ofList]
  intro hmem
  exact caseFree_closingCodes.of_mem_goName (by decide) (by decide) _ d hmem hd

theorem space_not_mem_goNameText (identifier : String) : ' ' ∉ (Naming.goNameText identifier).toList := by
  rw [Naming.goNameText, String.toList_ofList]
  exact (Naming.solid_goName _).space_not_mem

/-- The texts of a field can be told apart in its line: name and type by blanks, the tag by its backticks. -/
structure Field.Legible (f : Field) : Prop where
  name : ' ' ∉ f.name.toList ∧ '\x60' ∉ f.name.toList
  type : ' ' ∉ f.type.toList ∧ '\x60' ∉ f.type.toList ∧ f.type ≠ ""
  tag : '\x60' ∉ f.tag.toList

theorem legible_resolved : ∀ entry ∈ typeTable, ∀ resolved ∈ entry.2.resolutions,
    ' ' ∉ resolved.text.toList ∧ '\x60' ∉ resolved.text.toList ∧ resolved.text ≠ "" := by
  decide +kernel

theorem backtick_not_mem_tagPart {key : String} (hkey : '\x60' ∉ key.toList) (value : String) :
    '\x60' ∉ (tagPart key value).toList := by
  simp [tagPart, escapeTag, hkey, backtick_not_mem_escapeTagChar]

theorem backtick_not_mem_fieldTag (options : Options) (c : Column) (jsonName : Option String) :
    '\x60' ∉ (fieldTag options c jsonName).toList := by
  rw [fieldTag.eq_def, String.toList_append, List.mem_append, not_or]
  refine ⟨backtick_not_mem_tagPart (by decide) _, ?_⟩
  split
  · rw [String.toList_append, List.mem_append, not_or]
    exact ⟨by decide, backtick_not_mem_tagPart (by decide) _⟩
  · simp

theorem legible_of_fieldOf_eq_ok {table : String} {imports : List String}
    (hfield : fieldOf options table c (fieldNameOf options c) = .ok (f, imports)) : f.Legible := by
  simp only [fieldOf, Attempt.bind_eq_ok_iff] at hfield
  obtain ⟨resolved, hresolve, hfield⟩ := hfield
  cases hfield
  exact ⟨⟨space_not_mem_goNameText _, not_mem_goNameText (by decide) _⟩,
    of_resolutions legible_resolved hresolve, backtick_not_mem_fieldTag options c _⟩

/-- No text of the field but its comment has a backtick. -/
def Field.Plain (f : Field) : Prop := ∀ text ∈ [f.name, f.type, f.tag], '\x60' ∉ text.toList

instance (f : Field) : Decidable f.Plain := inferInstanceAs (Decidable (∀ text ∈ _, _))

theorem Field.Legible.plain (hf : f.Legible) : f.Plain := by
  simp [Field.Plain, hf.name.2, hf.type.2.1, hf.tag]

/-- What stands before the tag in the line of a field. -/
def nameTypePart (w : Widths) (f : Field) : String := padRight w.name f.name ++ " " ++ padRight w.type f.type ++ " "

theorem toList_fieldLine (w : Widths) (f : Field) : (fieldLine w f).toList =
    (nameTypePart w f).toList ++ '\x60' :: f.tag.toList ++ '\x60' :: (commentPart w f).toList := by
  simp [fieldLine_eq, nameTypePart, quotedTag]

theorem Field.Plain.nameTypePart (hf : f.Plain) (w : Widths) : '\x60' ∉ (nameTypePart w f).toList := by
  simp only [Field.Plain, List.forall_mem_cons] at hf
  simp [Go.nameTypePart, padRight, hf.1, hf.2.1]

theorem Field.Plain.tag (hf : f.Plain) : '\x60' ∉ f.tag.toList := hf f.tag (by simp)

theorem rawText?_fieldLine (hf : f.Plain) (w : Widths) :
    rawText? (fieldLine w f).toList = some f.tag.toList := by
  rw [toList_fieldLine, rawText?_append (hf.nameTypePart w) hf.tag]

theorem return_mem_escapeTag_iff {value : String} : '\r' ∈ (escapeTag value).toList ↔ '\r' ∈ value.toList := by
  simp [escapeTag, return_mem_escapeTagChar_iff]

theorem return_mem_tagPart_iff {key value : String} (hkey : '\r' ∉ key.toList) :
    '\r' ∈ (tagPart key value).toList ↔ '\r' ∈ value.toList := by
  simp [tagPart, hkey, return_mem_escapeTag_iff]

theorem return_not_mem_gormTag_iff :
    '\r' ∉ (gormTag options c).toList ↔ ∀ text ∈ tagTexts options c, '\r' ∉ text.toList := by
  rw [← forall_columnSettings_iff (by decide), gormTag, String.toList_intercalate]
  constructor
  · intro hfree setting hsetting hmem
    exact hfree (mem_intercalate_of_mem (List.mem_map_of_mem hsetting) hmem)
  · intro hsettings hmem
    obtain hsep | ⟨part, hpart, hmem⟩ := mem_of_mem_intercalate hmem
    · exact absurd hsep (by decide)
    · obtain ⟨setting, hsetting, rfl⟩ := List.mem_map.mp hpart
      exact hsettings setting hsetting hmem

/-- A JSON name adds no carriage return, as it is made of the column's name. -/
theorem return_not_mem_fieldTag_iff {jsonName : Option String}
    (hjson : ∀ name ∈ jsonName, name = Naming.jsonName c.name options.columnPrefixes) :
    '\r' ∉ (fieldTag options c jsonName).toList ↔ ∀ text ∈ tagTexts options c, '\r' ∉ text.toList := by
  rw [← return_not_mem_gormTag_iff, fieldTag.eq_def, String.toList_append, List.mem_append, not_or,
    return_mem_tagPart_iff (by decide)]
  refine and_iff_left_of_imp fun hgorm => ?_
  have hname : '\r' ∉ c.name.toList :=
    return_not_mem_gormTag_iff.mp hgorm c.name (mem_tagTexts_iff.mpr (.inl rfl))
  cases jsonName with
  | none => simp
  | some name =>
      rw [String.toList_append, List.mem_append, return_mem_tagPart_iff (by decide), hjson name rfl, not_or]
      refine ⟨by decide, fun hmem => hname (Naming.mem_of_mem_jsonName ?_ (by decide) hmem)⟩
      exact ⟨by decide, by decide, by decide +kernel, by decide +kernel, by decide⟩

/-- The line of a field is one line and holds the tag between its first two backticks. As a literal these denote
the tag exactly if no text of the column that the tag repeats has a carriage return. -/
structure KeepsTag (options : Options) (c : Column) (f : Field) (line : String) : Prop where
  oneLine : OneLine line
  text : rawText? line.toList = some f.tag.toList
  value : (rawText? line.toList).map rawValue = some f.tag.toList ↔
    ∀ text ∈ tagTexts options c, '\r' ∉ text.toList

theorem keepsTag_fieldLine {table : String} {imports : List String}
    (hfield : fieldOf options table c (fieldNameOf options c) = .ok (f, imports)) (w : Widths) :
    KeepsTag options c f (fieldLine w f) := by
  have htext := rawText?_fieldLine (legible_of_fieldOf_eq_ok hfield).plain w
  refine ⟨oneLine_fieldLine_iff.mpr (oneLine_of_fieldOf_eq_ok (oneLine_goNameText _) hfield), htext, ?_⟩
  rw [htext, Option.map_some, Option.some.injEq, rawValue_eq_self_iff]
  simp only [fieldOf, Attempt.bind_eq_ok_iff] at hfield
  obtain ⟨resolved, -, hfield⟩ := hfield
  cases hfield
  refine return_not_mem_fieldTag_iff fun name hname => ?_
  split at hname
  · exact (Option.some.inj hname).symm
  · cases hname

theorem keepsTag_of_structsOf_eq_ok [Naming.Inflection] {tables : List Table} {structs : List Struct}
    (hstructs : structsOf options tables = .ok structs) :
    List.Forall₂ (fun t s =>
        List.Forall₂ (fun c both => KeepsTag options c both.1 both.2) t.columns (s.fields.zip (fieldLines s)))
      tables structs := by
  rw [structsOf_of_nodup (nodup_of_structsOf_eq_ok hstructs), Attempt.mapM_eq_ok_iff] at hstructs
  refine hstructs.imp fun t s hs => ?_
  rw [fieldLines, ← List.map_prod_left_eq_zip, List.forall₂_map_right_iff]
  refine (fields_of_structOf_eq_ok hs).imp ?_
  rintro c f ⟨imports, hfield⟩
  exact keepsTag_fieldLine hfield _

/-- Signs of the source itself, in the names of a table and a column, a default and the comments. -/
def remarkTable : Table :=
  { name := "re\"\nmark"
    columns :=
      [{ name := "no\x60te", typeName := "VARCHAR", nullable := true, default := some "\\x60\n\"",
         comment := some "\x60\n\x7d" }]
    comment := some "a\n\x7d" }

def remarkStruct : Struct :=
  { name := "ReMark"
    fields :=
      [{ name := "NoTe", type := "*string"
         tag := "gorm:\"column:no\\x60te;default:\\\\x60\\n\\\"\" json:\"no_te\""
         column := "no\x60te", jsonName := some "no_te", comment := some "\x60\n\x7d" }]
    table := "re\"\nmark"
    package := "model"
    comment := some "a\n\x7d"
    namesTable := true }

def remarkOptions : Options := { jsonTag := true, nullStyle := .pointer, forceTableName := true }

theorem structsOf_remarkTable : structsOf remarkOptions [remarkTable] = .ok [remarkStruct] := by
  decide +kernel

theorem keepsTag_remark :
    List.Forall₂ (fun t s =>
        List.Forall₂ (fun c both => KeepsTag remarkOptions c both.1 both.2) t.columns (s.fields.zip (fieldLines s)))
      [remarkTable] [remarkStruct] :=
  keepsTag_of_structsOf_eq_ok structsOf_remarkTable

def returnTable : Table :=
  { name := "memo"
    columns := [{ name := "body", typeName := "VARCHAR", nullable := true, default := some "x\ry" }] }

def returnStruct : Struct :=
  { name := "Memo"
    fields :=
      [{ name := "Body", type := "*string", tag := "gorm:\"column:body;default:x\ry\"", column := "body" }]
    table := "memo"
    package := "model"
    namesTable := true }

theorem returnTable_loses_tag :
    structsOf { nullStyle := .pointer, forceTableName := true } [returnTable] = .ok [returnStruct] ∧
      (fieldLines returnStruct).map (fun line => (rawText? line.toList).map rawValue) ≠
        returnStruct.fields.map fun f => some f.tag.toList := by
  decide +kernel

end GormModels.Go
