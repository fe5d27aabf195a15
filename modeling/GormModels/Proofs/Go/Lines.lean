import GormModels.Go.Source
import GormModels.Proofs.Go.StructOutcome
import GormModels.Proofs.Go.Type
import GormModels.Proofs.Naming.Inflection

/-!
# Lines of a source file

The texts of a table reach its source as names, tags, comments and literals, and none of them can end a line.
So the lines of a source file are exactly those that were put together.
-/

namespace GormModels.Go

variable {options : Options} {t : Table} {name package : String} {s : Struct} {structs : List Struct}

/-- The lines of a text. -/
def linesOf (text : String) : List (List Char) := text.toList.splitOn '\n'

/-- The text has no line feed. -/
def OneLine (text : String) : Prop := '\n' ∉ text.toList

instance (text : String) : Decidable (OneLine text) := inferInstanceAs (Decidable (¬_))

@[simp]
theorem oneLine_append {a b : String} : OneLine (a ++ b) ↔ OneLine a ∧ OneLine b := by
  simp [OneLine]

/-- No text of the struct ends a line. -/
structure Struct.OneLine (s : Struct) : Prop where
  name : Go.OneLine s.name
  fields : ∀ f ∈ s.fields, Go.OneLine f.name ∧ Go.OneLine f.type ∧ Go.OneLine f.tag

/-! ### Texts of a table -/

theorem oneLine_goNameText (identifier : String) : OneLine (Naming.goNameText identifier) := by
  rw [OneLine, Naming.goNameText, String.toList_ofList]
  exact (Naming.solid_goName _).newline_not_mem

theorem newline_not_mem_escape (c : Char) : '\n' ∉ Json.escape c := by
  have hdigit : ∀ n < 16, '\n' ≠ Nat.digitChar n := by decide
  unfold Json.escape
  split
  case h_8 hnewline _ _ _ _ =>
      split
      · have hhigh := hdigit (c.toNat / 16) (by omega)
        have hlow := hdigit (c.toNat % 16) (by omega)
        simp [hhigh, hlow]
      · simpa [eq_comm] using hnewline
  all_goals decide

theorem oneLine_stringLiteral (text : String) : OneLine (stringLiteral text) := by
  rw [OneLine, stringLiteral, Json.quote, String.toList_ofList]
  simp [newline_not_mem_escape]

theorem newline_not_mem_escapeTagChar (c : Char) : '\n' ∉ escapeTagChar c := by
  unfold escapeTagChar
  split
  case h_5 hnewline => simpa [eq_comm] using hnewline
  all_goals decide

theorem oneLine_escapeTag (value : String) : OneLine (escapeTag value) := by
  rw [OneLine, escapeTag, String.toList_ofList]
  simp [newline_not_mem_escapeTagChar]

theorem oneLine_commentText (text : String) : OneLine (commentText text) := by
  rw [OneLine, commentText, String.toList_ofList]
  intro hmem
  obtain hspace | hblank := Text.isBlank_of_mem_collapse hmem
  · exact absurd hspace (by decide)
  · exact absurd hblank (by decide)

/-- A comment is empty where nothing but blanks is left of it. -/
theorem commentText_eq_empty_iff {text : String} :
    commentText text = "" ↔ ∀ c ∈ text.toList, Text.isBlank c = true := by
  rw [← Text.collapse_eq_nil_iff, commentText, ← String.toList_inj, String.toList_ofList, String.toList_empty]

theorem oneLine_tagPart {key : String} (hkey : OneLine key) (value : String) : OneLine (tagPart key value) := by
  simp only [tagPart, oneLine_append]
  exact ⟨⟨⟨hkey, by decide⟩, oneLine_escapeTag value⟩, by decide⟩

theorem oneLine_fieldTag (c : Column) (jsonName : Option String) : OneLine (fieldTag options c jsonName) := by
  simp only [fieldTag, oneLine_append]
  refine ⟨oneLine_tagPart (by decide) _, ?_⟩
  split
  · simp only [oneLine_append]
    exact ⟨by decide, oneLine_tagPart (by decide) _⟩
  · decide

theorem oneLine_resolved : ∀ entry ∈ typeTable, ∀ resolved ∈ entry.2.resolutions, OneLine resolved.text := by
  decide +kernel

theorem oneLine_of_fieldOf_eq_ok {table : String} {c : Column} {f : Field} {imports : List String}
    (hname : OneLine name) (hfield : fieldOf options table c name = .ok (f, imports)) :
    OneLine f.name ∧ OneLine f.type ∧ OneLine f.tag := by
  simp only [fieldOf, Attempt.bind_eq_ok_iff] at hfield
  obtain ⟨resolved, hresolve, hfield⟩ := hfield
  cases hfield
  exact ⟨hname, of_resolutions oneLine_resolved hresolve, oneLine_fieldTag c _⟩

theorem Struct.oneLine_of_structsOf_eq_ok [Naming.Inflection] {tables : List Table}
    (hstructs : structsOf options tables = .ok structs) : ∀ s ∈ structs, s.OneLine := by
  rw [structsOf_of_nodup (nodup_of_structsOf_eq_ok hstructs), Attempt.mapM_eq_ok_iff] at hstructs
  intro s hs
  obtain ⟨t, -, hs⟩ := Attempt.exists_of_forall₂_of_mem hstructs.flip hs
  refine ⟨?_, fun f hf => ?_⟩
  · rw [(isStructOf_of_structOf_eq_ok hs).name]
    exact oneLine_goNameText _
  · obtain ⟨c, -, imports, hfield⟩ := Attempt.exists_of_forall₂_of_mem (fields_of_structOf_eq_ok hs).flip hf
    exact oneLine_of_fieldOf_eq_ok (oneLine_goNameText _) hfield

/-! ### The lines put together -/

@[simp]
theorem oneLine_padRight_iff {text : String} {width : Nat} : OneLine (padRight width text) ↔ OneLine text := by
  rw [padRight, oneLine_append]
  refine and_iff_left ?_
  simp [OneLine]

/-- What stands behind the tag in the line of a field. -/
def commentPart (w : Widths) (f : Field) : String :=
  if commentText (f.comment.getD "") = "" then ""
  else .ofList (List.replicate (w.tag - f.tag.length) ' ') ++ " // " ++ commentText (f.comment.getD "")

theorem fieldLine_eq (w : Widths) (f : Field) : fieldLine w f =
    padRight w.name f.name ++ " " ++ padRight w.type f.type ++ " " ++ quotedTag f.tag ++ commentPart w f := by
  rw [fieldLine, commentPart]
  by_cases hcomment : commentText (f.comment.getD "") = ""
  · simp [hcomment]
  · simp [hcomment, String.append_assoc]

theorem oneLine_commentPart (w : Widths) (f : Field) : OneLine (commentPart w f) := by
  unfold commentPart
  split
  · decide
  · rw [oneLine_append, oneLine_append]
    refine ⟨⟨?_, by decide⟩, oneLine_commentText _⟩
    simp [OneLine]

/-- Comments cannot end the line of a field; its other texts can. -/
theorem oneLine_fieldLine_iff {w : Widths} {f : Field} :
    OneLine (fieldLine w f) ↔ OneLine f.name ∧ OneLine f.type ∧ OneLine f.tag := by
  have hspace : OneLine " " := by decide
  have hbacktick : OneLine "\x60" := by decide
  simp [fieldLine_eq, quotedTag, hspace, hbacktick, oneLine_commentPart, and_assoc]

/-- The lines that a struct can have. -/
theorem mem_structLines {line : String} (hline : line ∈ structLines s) :
    (∃ comment, s.comment = some comment ∧ comment ≠ "" ∧ line = "// " ++ s.name ++ " " ++ commentText comment) ∨
    line = "type " ++ s.name ++ " struct \x7b" ∨
    (∃ f ∈ s.fields, line = "\t" ++ fieldLine (.of s.fields) f) ∨
    (s.namesTable = true ∧ line = "func (m *" ++ s.name ++ ") TableName() string \x7b") ∨
    line = "\treturn " ++ stringLiteral s.table ∨ line = "\x7d" ∨ line = "" := by
  simp only [structLines, fieldLines, List.mem_append, List.mem_map,
    List.mem_ite_nil_right, List.mem_cons, List.not_mem_nil, or_false] at hline
  obtain (((hline | hline) | ⟨_, ⟨f, hf, rfl⟩, rfl⟩) | hline) | ⟨hnames, hline⟩ := hline
  · split at hline
    case h_1 comment hcomment =>
        split at hline
        case isTrue => simp at hline
        case isFalse hempty => exact .inl ⟨comment, hcomment, by simpa using hempty, by simpa using hline⟩
    case h_2 => simp at hline
  · exact .inr (.inl hline)
  · exact .inr (.inr (.inl ⟨f, hf, rfl⟩))
  · simp [hline]
  · obtain rfl | rfl | rfl | rfl := hline <;> simp [hnames]

theorem oneLine_of_mem_structLines (hs : s.OneLine) : ∀ line ∈ structLines s, OneLine line := by
  intro line hline
  obtain ⟨comment, -, -, rfl⟩ | rfl | ⟨f, hf, rfl⟩ | ⟨-, rfl⟩ | rfl | rfl | rfl := mem_structLines hline
  · simp only [oneLine_append]
    exact ⟨⟨⟨by decide, hs.name⟩, by decide⟩, oneLine_commentText comment⟩
  · simp only [oneLine_append]
    exact ⟨⟨by decide, hs.name⟩, by decide⟩
  · simp only [oneLine_append]
    exact ⟨by decide, oneLine_fieldLine_iff.mpr (hs.fields f hf)⟩
  · simp only [oneLine_append]
    exact ⟨⟨by decide, hs.name⟩, by decide⟩
  · simp only [oneLine_append]
    exact ⟨by decide, oneLine_stringLiteral _⟩
  · decide
  · decide

/-- The lines that the imports of a file can have. -/
theorem mem_importLines {paths : List String} {line : String} (hline : line ∈ importLines paths) :
    line = "" ∨ line = "import (" ∨ (∃ path, line = "\t" ++ stringLiteral path) ∨ line = ")" := by
  unfold importLines at hline
  split at hline
  · simp at hline
  · simp only [List.mem_append, List.mem_cons, List.mem_map, List.not_mem_nil, or_false] at hline
    obtain ((hblank | hopen) | ⟨path, -, hpath⟩) | hclose := hline
    · exact .inl hblank
    · exact .inr (.inl hopen)
    · exact .inr (.inr (.inl ⟨path, hpath.symm⟩))
    · exact .inr (.inr (.inr hclose))

theorem oneLine_of_mem_importLines {paths : List String} : ∀ line ∈ importLines paths, OneLine line := by
  intro line hline
  obtain rfl | rfl | ⟨path, rfl⟩ | rfl := mem_importLines hline
  · decide
  · decide
  · rw [oneLine_append]
    exact ⟨by decide, oneLine_stringLiteral path⟩
  · decide

theorem oneLine_of_mem_sourceLines (hpackage : OneLine package) (hstructs : ∀ s ∈ structs, s.OneLine) :
    ∀ line ∈ sourceLines package structs, OneLine line := by
  intro line hline
  simp only [sourceLines, List.mem_append, List.mem_flatMap, List.mem_cons, List.not_mem_nil, or_false] at hline
  obtain (rfl | hline) | ⟨s, hs, rfl | hline⟩ := hline
  · simp only [oneLine_append]
    exact ⟨by decide, hpackage⟩
  · exact oneLine_of_mem_importLines line hline
  · decide
  · exact oneLine_of_mem_structLines (hstructs s hs) line hline

/-! ### The whole file -/

theorem getLast?_structLines (s : Struct) : (structLines s).getLast? = some "\x7d" := by
  rw [structLines, List.getLast?_append]
  split
  · rfl
  · rw [List.getLast?_append]
    rfl

theorem getLast?_sourceLines (package : String) (hstructs : structs ≠ []) :
    (sourceLines package structs).getLast? = some "\x7d" := by
  obtain ⟨others, s, rfl⟩ := (List.eq_nil_or_concat' structs).resolve_left hstructs
  obtain ⟨front, hfront⟩ := List.getLast?_eq_some_iff.mp (getLast?_structLines s)
  rw [sourceLines, List.flatMap_append, List.flatMap_singleton, hfront, ← List.cons_append, ← List.append_assoc,
    ← List.append_assoc, List.getLast?_concat]

/-- The last line of a file is not empty. -/
theorem exists_sourceLines_eq_concat (package : String) (structs : List Struct) :
    ∃ front last, sourceLines package structs = front ++ [last] ∧ last ≠ "" := by
  by_cases hstructs : structs = []
  · subst hstructs
    exact ⟨[], "package " ++ package, by simp [sourceLines, importsOf, sortedSet, importLines], by simp⟩
  · obtain ⟨front, hfront⟩ := List.getLast?_eq_some_iff.mp (getLast?_sourceLines package hstructs)
    exact ⟨front, "\x7d", hfront, by decide⟩

theorem trimLineFeeds_of_getLast? {text : String} (htext : text.toList.getLast? ≠ some '\n') :
    trimLineFeeds text = text := by
  have hself : text.toList.reverse.dropWhile (· == '\n') = text.toList.reverse := by
    rw [← List.head?_reverse] at htext
    cases hchars : text.toList.reverse with
    | nil => rfl
    | cons c rest =>
        rw [hchars, List.head?_cons] at htext
        exact List.dropWhile_cons_of_neg (by simpa using htext)
  rw [trimLineFeeds, hself, List.reverse_reverse, String.ofList_toList]

/-- Where the last line is one line and not empty, no line feed is trimmed. -/
theorem source_eq_of_concat {front : List String} {last : String}
    (hlines : sourceLines package structs = front ++ [last]) (hlast : last ≠ "") (hline : OneLine last) :
    ("\n".intercalate (sourceLines package structs)).toList.getLast? ≠ some '\n' ∧
      source package structs = "\n".intercalate (sourceLines package structs) ++ "\n" := by
  have hend : ("\n".intercalate (sourceLines package structs)).toList.getLast? ≠ some '\n' := by
    rw [String.toList_intercalate, hlines, List.map_append, List.map_singleton,
      Text.getLast?_intercalate_concat _ (by simpa using hlast)]
    intro hnewline
    exact hline (List.mem_of_getLast? hnewline)
  exact ⟨hend, by rw [source, trimLineFeeds_of_getLast? hend]⟩

/-- A source file has the lines that were put together, and its last line is ended. -/
theorem linesOf_source (hpackage : OneLine package) (hstructs : ∀ s ∈ structs, s.OneLine) :
    linesOf (source package structs) = (sourceLines package structs).map String.toList ++ [[]] := by
  have hlines := oneLine_of_mem_sourceLines hpackage hstructs
  obtain ⟨front, last, hsource, hlast⟩ := exists_sourceLines_eq_concat package structs
  have hjoin : (source package structs).toList =
      ['\n'].intercalate ((sourceLines package structs).map String.toList ++ [[]]) := by
    rw [(source_eq_of_concat hsource hlast (hlines last (by simp [hsource]))).2, String.toList_append,
      String.toList_intercalate, Text.intercalate_append (by simp [hsource]) (by simp)]
    simp
  rw [linesOf, hjoin, List.splitOn_intercalate _ _ (by simp)]
  intro line hline
  obtain hline | hline := List.mem_append.mp hline
  · obtain ⟨text, htext, rfl⟩ := List.mem_map.mp hline
    exact hlines text htext
  · simp [List.mem_singleton.mp hline]

end GormModels.Go
