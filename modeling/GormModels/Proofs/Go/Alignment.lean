import GormModels.Proofs.Go.FieldLine

/-!
# Columns of fields

The lines of a struct's fields are padded one by one, each to the widths of the widest texts. So the parts of a line
begin in the same columns as those of every other line. A comment that is blank has no part in its line.
-/

namespace GormModels.Go

variable {w : Widths} {f : Field} {fields : List Field} {s : Struct}

/-! ### The columns of a line -/

/-- What stands behind the second backtick of a line. -/
def behindTag (line : List Char) : List Char :=
  (((line.dropWhile (· != '\x60')).drop 1).dropWhile (· != '\x60')).drop 1

/-- The column of a comment that has only blanks between it and the tag. -/
def commentColumn? (line : List Char) : Option Nat :=
  let comment := (behindTag line).dropWhile (· == ' ')
  if ['/', '/'] <+: comment then some (line.length - comment.length) else none

/-- The comment of the field has something to say. -/
def Field.Commented (f : Field) : Prop := ∃ comment ∈ f.comment, ∃ c ∈ comment.toList, Text.isBlank c = false

/-- The columns that types, tags and comments begin in. -/
structure Columns where
  type : Nat
  tag : Nat
  comment : Nat

structure Aligned (columns : Columns) (f : Field) (line : List Char) : Prop where
  name : f.name.toList <+: line
  type : f.type.toList <+: line.drop columns.type
  tagColumn : line.idxOf? '\x60' = some columns.tag
  tag : rawText? line = some f.tag.toList
  comment : ∀ column, commentColumn? line = some column ↔ f.Commented ∧ column = columns.comment

/-- Comments begin one blank behind the widest tag with its backticks. -/
structure Columns.ClearTags (columns : Columns) (fields : List Field) : Prop where
  reached : ∃ f ∈ fields, columns.tag + (quotedTag f.tag).length + 1 = columns.comment
  clear : ∀ f ∈ fields, columns.tag + (quotedTag f.tag).length + 1 ≤ columns.comment

/-! ### Widths -/

theorem max?_eq_greatest {sizes : List Nat} (hsizes : sizes ≠ []) : sizes.max? = some (greatest sizes) := by
  obtain ⟨n, sizes, rfl⟩ := List.exists_cons_of_ne_nil hsizes
  rw [List.max?_cons', greatest, List.foldl_cons, Nat.zero_max]

theorem greatest_mem {sizes : List Nat} (hsizes : sizes ≠ []) : greatest sizes ∈ sizes :=
  (List.max?_eq_some_iff.mp (max?_eq_greatest hsizes)).1

theorem le_greatest {sizes : List Nat} {n : Nat} (hn : n ∈ sizes) : n ≤ greatest sizes :=
  (List.max?_eq_some_iff.mp (max?_eq_greatest (List.ne_nil_of_mem hn))).2 n hn

/-- The texts of the field are no wider than the columns. -/
structure Field.Fits (f : Field) (w : Widths) : Prop where
  name : f.name.length ≤ w.name
  type : f.type.length ≤ w.type
  tag : f.tag.length ≤ w.tag

theorem fits_of_mem (hf : f ∈ fields) : f.Fits (.of fields) :=
  ⟨le_greatest (List.mem_map_of_mem hf), le_greatest (List.mem_map_of_mem hf), le_greatest (List.mem_map_of_mem hf)⟩

theorem length_padRight {width : Nat} {text : String} (htext : text.length ≤ width) :
    (padRight width text).length = width := by
  rw [padRight, String.length_append, String.length_ofList, List.length_replicate]
  omega

/-- The columns that lines padded to the widths have. -/
def Columns.of (w : Widths) : Columns where
  type := w.name + 1
  tag := w.name + 1 + w.type + 1
  comment := w.name + 1 + w.type + 1 + (w.tag + 2) + 1

theorem length_quotedTag (tag : String) : (quotedTag tag).length = tag.length + 2 := by
  have hbacktick : "\x60".length = 1 := by decide
  rw [quotedTag, String.length_append, String.length_append, hbacktick]
  omega

theorem clearTags_of (hfields : fields ≠ []) : (Columns.of (.of fields)).ClearTags fields := by
  constructor
  · have hwidest : greatest (fields.map (·.tag.length)) ∈ fields.map (·.tag.length) :=
      greatest_mem (mt List.map_eq_nil_iff.mp hfields)
    obtain ⟨f, hf, hlength⟩ := List.mem_map.mp hwidest
    refine ⟨f, hf, ?_⟩
    rw [length_quotedTag, hlength]
    rfl
  · intro f hf
    have hfits := (fits_of_mem hf).tag
    rw [length_quotedTag]
    simp only [Columns.of]
    omega

/-! ### Padded lines -/

theorem toList_fieldLine_eq_name (w : Widths) (f : Field) : ∃ behind, (fieldLine w f).toList =
    (padRight w.name f.name ++ " ").toList ++ (f.type.toList ++ behind) := by
  rw [toList_fieldLine, nameTypePart, padRight.eq_def w.type]
  simp only [String.toList_append, List.append_assoc]
  exact ⟨_, rfl⟩

theorem name_isPrefix_fieldLine (w : Widths) (f : Field) : f.name.toList <+: (fieldLine w f).toList := by
  obtain ⟨behind, hline⟩ := toList_fieldLine_eq_name w f
  rw [hline, padRight]
  simp only [String.toList_append, List.append_assoc]
  exact List.prefix_append _ _

theorem type_isPrefix_drop_fieldLine (hfits : f.Fits w) :
    f.type.toList <+: (fieldLine w f).toList.drop (Columns.of w).type := by
  obtain ⟨behind, hline⟩ := toList_fieldLine_eq_name w f
  have hlength : (padRight w.name f.name ++ " ").toList.length = (Columns.of w).type := by
    rw [String.length_toList, String.length_append, length_padRight hfits.name]
    rfl
  rw [hline, List.drop_left' hlength]
  exact List.prefix_append _ _

theorem length_nameTypePart (hfits : f.Fits w) : (nameTypePart w f).toList.length = (Columns.of w).tag := by
  simp only [nameTypePart, String.length_toList, String.length_append, length_padRight hfits.name,
    length_padRight hfits.type]
  rfl

theorem idxOf?_fieldLine (hf : f.Plain) (hfits : f.Fits w) :
    (fieldLine w f).toList.idxOf? '\x60' = some (Columns.of w).tag := by
  have hbefore : (nameTypePart w f).toList.idxOf? '\x60' = none := List.idxOf?_eq_none_iff.mpr (hf.nameTypePart w)
  rw [List.idxOf?] at hbefore ⊢
  rw [toList_fieldLine, List.append_assoc, List.findIdx?_append, hbefore, List.cons_append, List.findIdx?_cons,
    if_pos (by decide), Option.none_or, Option.map_some, length_nameTypePart hfits, Nat.zero_add]

theorem behindTag_fieldLine (hf : f.Plain) (w : Widths) :
    behindTag (fieldLine w f).toList = (commentPart w f).toList := by
  simp only [behindTag, List.drop_one]
  rw [toList_fieldLine, List.append_assoc, List.cons_append, Text.dropWhile_ne_append (hf.nameTypePart w),
    List.tail_cons, Text.dropWhile_ne_append hf.tag, List.tail_cons]

theorem commentText_eq_empty_iff_not_commented : commentText (f.comment.getD "") = "" ↔ ¬f.Commented := by
  rw [commentText_eq_empty_iff, Field.Commented]
  cases f.comment <;> simp

theorem commentColumn?_of_not_commented (hf : f.Plain) (hcomment : ¬f.Commented) (w : Widths) :
    commentColumn? (fieldLine w f).toList = none := by
  have hempty : commentText (f.comment.getD "") = "" := commentText_eq_empty_iff_not_commented.mpr hcomment
  rw [commentColumn?, behindTag_fieldLine hf, commentPart, if_pos hempty]
  rfl

theorem commentColumn?_of_commented (hf : f.Plain) (hfits : f.Fits w) (hcomment : f.Commented) :
    commentColumn? (fieldLine w f).toList = some (Columns.of w).comment := by
  have hempty : commentText (f.comment.getD "") ≠ "" :=
    mt commentText_eq_empty_iff_not_commented.mp (not_not.mpr hcomment)
  have hpart : (commentPart w f).toList = List.replicate (w.tag - f.tag.length + 1) ' ' ++
      '/' :: '/' :: ' ' :: (commentText (f.comment.getD "")).toList := by
    rw [commentPart, if_neg hempty, List.replicate_succ']
    simp
  have hcomment : (commentPart w f).toList.dropWhile (· == ' ') =
      '/' :: '/' :: ' ' :: (commentText (f.comment.getD "")).toList := by
    rw [hpart, List.dropWhile_append_of_pos (by simp +contextual), List.dropWhile_cons_of_neg (by decide)]
  rw [commentColumn?, behindTag_fieldLine hf, hcomment, if_pos (by simp)]
  have htag := hfits.tag
  simp only [toList_fieldLine, hpart, List.length_append, List.length_cons, List.length_replicate,
    length_nameTypePart hfits, String.length_toList, Columns.of, Option.some.injEq]
  omega

theorem aligned_fieldLine (hf : f.Plain) (hfits : f.Fits w) :
    Aligned (Columns.of w) f (fieldLine w f).toList where
  name := name_isPrefix_fieldLine w f
  type := type_isPrefix_drop_fieldLine hfits
  tagColumn := idxOf?_fieldLine hf hfits
  tag := rawText?_fieldLine hf w
  comment := by
    intro column
    by_cases hcomment : f.Commented
    · rw [commentColumn?_of_commented hf hfits hcomment, Option.some.injEq, eq_comm]
      exact (and_iff_right hcomment).symm
    · rw [commentColumn?_of_not_commented hf hcomment]
      simp [hcomment]

/-- Each field has its line, in their order. If no text before a comment has a backtick, all lines have the same
columns, and a line has a comment exactly if that of its field is not blank. -/
theorem aligned_fieldLines (hfields : s.fields ≠ []) :
    List.Forall₂ (fun f line => f.name.toList <+: line.toList ∧
        (OneLine line ↔ OneLine f.name ∧ OneLine f.type ∧ OneLine f.tag)) s.fields (fieldLines s) ∧
      ((∀ f ∈ s.fields, f.Plain) → ∃ columns : Columns,
        List.Forall₂ (Aligned columns) s.fields ((fieldLines s).map String.toList) ∧
          columns.ClearTags s.fields) := by
  constructor
  · rw [fieldLines, List.forall₂_map_right_iff, List.forall₂_same]
    exact fun f _ => ⟨name_isPrefix_fieldLine _ f, oneLine_fieldLine_iff⟩
  · intro hplain
    refine ⟨Columns.of (.of s.fields), ?_, clearTags_of hfields⟩
    rw [fieldLines, List.map_map, List.forall₂_map_right_iff, List.forall₂_same]
    exact fun f hf => aligned_fieldLine (hplain f hf) (fits_of_mem hf)

/-- Texts of different widths, one comment on two lines and one with nothing on its line. -/
def memberStruct : Struct :=
  { name := "Member"
    fields :=
      [{ name := "ID", type := "uint64", tag := "gorm:\"column:id\"", column := "id", comment := some "row\nkey" },
        { name := "UserName", type := "*string", tag := "gorm:\"column:user_name\"", column := "user_name"
          comment := some " \t" },
        { name := "Age", type := "int8", tag := "gorm:\"column:age\"", column := "age" }]
    table := "member"
    package := "model"
    namesTable := false }

theorem aligned_memberStruct : ∃ columns : Columns,
    List.Forall₂ (Aligned columns) memberStruct.fields ((fieldLines memberStruct).map String.toList) ∧
      columns.ClearTags memberStruct.fields :=
  (aligned_fieldLines (s := memberStruct) (by simp [memberStruct])).2 (by decide)

end GormModels.Go
