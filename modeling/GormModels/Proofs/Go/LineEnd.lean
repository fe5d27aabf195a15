import GormModels.Proofs.Batch
import GormModels.Proofs.Go.Lines
import GormModels.Proofs.Options
import GormModels.Proofs.Schema.Columns

/-!
# Ends of lines

Padding stands before a text and never at the end of a line. A field whose comment is blank has a line without one,
but a table whose comment is blank has one, with the blank before it at the end of its line.
-/

namespace GormModels.Go

variable {options : Options} {entries : List (String × Value)} {package sql text : String} {s : Struct}
  {structs : List Struct}

def NoTrailingBlank (line : List Char) : Prop := ∀ c ∈ line.getLast?, Text.isBlank c = false

-- As a statement on all characters it would be decided by going through every one there is.
instance (line : List Char) : Decidable (NoTrailingBlank line) :=
  decidable_of_iff (line.getLast?.all fun c => !Text.isBlank c) (by simp [NoTrailingBlank, Option.all_eq_true])

/-- There is a comment, and it is nothing but blanks. -/
def BlankComment (comment : Option String) : Prop :=
  ∃ text ∈ comment, text ≠ "" ∧ ∀ c ∈ text.toList, Text.isBlank c = true

/-- Some table that the text declares has a blank comment. -/
def RemarksBlank [Sql.Dialect] (sql : String) : Prop :=
  ∃ declarations, Sql.parseTables sql = .ok declarations ∧ ∃ t ∈ declarations, BlankComment t.comment

/-! ### Single lines -/

theorem noTrailingBlank_append {text ending : String} (hne : ending ≠ "") (hending : NoTrailingBlank ending.toList) :
    NoTrailingBlank (text ++ ending).toList := by
  rwa [NoTrailingBlank, String.toList_append, List.getLast?_append_of_ne_nil _ (by simpa using hne)]

theorem noTrailingBlank_commentText (text : String) : NoTrailingBlank (commentText text).toList := by
  rw [commentText, String.toList_ofList]
  exact Text.isBlank_getLast?_collapse

theorem noTrailingBlank_stringLiteral (text : String) : NoTrailingBlank (stringLiteral text).toList := by
  rw [NoTrailingBlank, stringLiteral, Json.quote, String.toList_ofList, List.getLast?_concat]
  rintro c ⟨rfl⟩
  rfl

theorem stringLiteral_ne_empty (text : String) : stringLiteral text ≠ "" := by
  simp [stringLiteral, Json.quote]

theorem noTrailingBlank_fieldLine (w : Widths) (f : Field) (before : String) :
    NoTrailingBlank (before ++ fieldLine w f).toList := by
  rw [fieldLine_eq, commentPart]
  split
  case isTrue =>
      rw [String.append_empty, quotedTag, ← String.append_assoc, ← String.append_assoc]
      exact noTrailingBlank_append (by decide) (by decide)
  case isFalse hcomment =>
      rw [← String.append_assoc, ← String.append_assoc]
      exact noTrailingBlank_append hcomment (noTrailingBlank_commentText _)

/-! ### The lines of a struct -/

theorem noTrailingBlank_of_mem_structLines (hs : ¬BlankComment s.comment) :
    ∀ line ∈ structLines s, NoTrailingBlank line.toList := by
  intro line hline
  obtain ⟨comment, hcomment, hne, rfl⟩ | rfl | ⟨f, -, rfl⟩ | ⟨-, rfl⟩ | rfl | rfl | rfl := mem_structLines hline
  · have htext : commentText comment ≠ "" := fun hempty =>
      hs ⟨comment, hcomment, hne, commentText_eq_empty_iff.mp hempty⟩
    exact noTrailingBlank_append htext (noTrailingBlank_commentText comment)
  · exact noTrailingBlank_append (by decide) (by decide)
  · exact noTrailingBlank_fieldLine _ f "\t"
  · exact noTrailingBlank_append (by decide) (by decide)
  · exact noTrailingBlank_append (stringLiteral_ne_empty _) (noTrailingBlank_stringLiteral _)
  · decide
  · decide

/-- The line of a blank comment ends with the blank before it. -/
theorem exists_trailing_blank (hs : BlankComment s.comment) :
    ∃ line ∈ structLines s, ¬NoTrailingBlank line.toList := by
  obtain ⟨comment, hcomment, hne, hblank⟩ := hs
  refine ⟨"// " ++ s.name ++ " ", ?_, ?_⟩
  · rw [Option.mem_def] at hcomment
    simp [structLines, hcomment, hne, commentText_eq_empty_iff.mpr hblank]
  · intro hline
    rw [NoTrailingBlank, String.toList_append, List.getLast?_append_of_ne_nil _ (by decide)] at hline
    exact absurd (hline ' ' rfl) (by decide)

theorem forall_structLines_iff :
    (∀ line ∈ structLines s, NoTrailingBlank line.toList) ↔ ¬BlankComment s.comment := by
  refine ⟨fun hlines hs => ?_, noTrailingBlank_of_mem_structLines⟩
  obtain ⟨line, hline, hend⟩ := exists_trailing_blank hs
  exact hend (hlines line hline)

/-! ### The lines of a file -/

theorem noTrailingBlank_of_mem_importLines {paths : List String} :
    ∀ line ∈ importLines paths, NoTrailingBlank line.toList := by
  intro line hline
  obtain rfl | rfl | ⟨path, rfl⟩ | rfl := mem_importLines hline
  · decide
  · decide
  · exact noTrailingBlank_append (stringLiteral_ne_empty path) (noTrailingBlank_stringLiteral path)
  · decide

theorem forall_sourceLines_iff (hne : package ≠ "") (hpackage : NoTrailingBlank package.toList) :
    (∀ line ∈ sourceLines package structs, NoTrailingBlank line.toList) ↔ ∀ s ∈ structs, ¬BlankComment s.comment := by
  have hfront : ∀ line ∈ ["package " ++ package] ++ importLines (importsOf structs), NoTrailingBlank line.toList := by
    intro line hline
    obtain hline | hline := List.mem_append.mp hline
    · rw [List.mem_singleton.mp hline]
      exact noTrailingBlank_append hne hpackage
    · exact noTrailingBlank_of_mem_importLines line hline
  have hempty : NoTrailingBlank "".toList := by decide
  rw [sourceLines, List.forall_mem_append, and_iff_right hfront, List.forall_mem_flatMap]
  simp only [List.forall_mem_cons, hempty, true_and, forall_structLines_iff]

/-! ### The whole text -/

theorem isBlank_of_isNameChar {c : Char} (hc : isNameChar c = true) : Text.isBlank c = false := by
  by_contra hblank
  have hname : isNameChar c = false :=
    Text.of_blankCodes (p := fun c => isNameChar c = false) (by decide +kernel) (by simpa using hblank)
  exact Bool.false_ne_true (hname.symm.trans hc)

theorem noTrailingBlank_package [Validator] (hoptions : Options.ofEntries entries = .ok options) :
    options.package ≠ "" ∧ NoTrailingBlank options.package.toList := by
  constructor
  · intro hempty
    have hname := (Options.isPackageName_of_ofEntries hoptions).1
    rw [hempty] at hname
    exact absurd hname (by decide)
  · intro c hc
    exact isBlank_of_isNameChar (Options.isNameChar_of_ofEntries_eq_ok hoptions c (List.mem_of_getLast? hc))

/-- The structs of a text have the comments of its tables. -/
theorem map_comment_of_gives [Naming.Inflection] {declarations : List TableDeclaration}
    (hgives : Gives options declarations structs) :
    structs.map (·.comment) = declarations.map (·.comment) := by
  obtain ⟨tables, hbuild, hstructs⟩ := hgives
  calc structs.map (·.comment) = tables.map (·.comment) :=
        Attempt.map_eq_map_of_forall₂ ((isStructOf_of_structsOf_eq_ok hstructs).imp fun _ _ => IsStructOf.comment)
    _ = declarations.map (·.comment) := by
        refine Attempt.map_eq_map_of_forall₂ ((Attempt.mapM_eq_ok_iff.mp hbuild).imp fun t table ht => ?_)
        obtain ⟨-, -, -, -, hcomment⟩ := exists_context_of_build_table_eq_ok ht
        exact hcomment

theorem oneLine_package [Validator] (hoptions : Options.ofEntries entries = .ok options) : OneLine options.package :=
  fun hnewline => absurd (Options.isNameChar_of_ofEntries_eq_ok hoptions _ hnewline) (by decide)

theorem forall_linesOf_iff [Validator] (hoptions : Options.ofEntries entries = .ok options)
    (hlines : ∀ s ∈ structs, s.OneLine) :
    (∀ line ∈ linesOf (source options.package structs), NoTrailingBlank line) ↔
      ∀ s ∈ structs, ¬BlankComment s.comment := by
  obtain ⟨hne, hpackage⟩ := noTrailingBlank_package hoptions
  have hend : NoTrailingBlank [] := by decide
  rw [linesOf_source (oneLine_package hoptions) hlines, List.forall_mem_append, List.forall_mem_map,
    forall_sourceLines_iff hne hpackage]
  simp [hend]

/-- A source text ends with one line feed. It has no blank at the end of a line exactly if no table came with a
comment that is blank. -/
theorem lineEnds_of_compile [Sql.Dialect] [Naming.Inflection] [Validator]
    (hoptions : Options.ofEntries entries = .ok options)
    (hcompile : compile options sql = .ok text) :
    (∃ body, text = body ++ "\n" ∧ body.toList.getLast? ≠ some '\n') ∧
      ((∀ line ∈ linesOf text, NoTrailingBlank line) ↔ ¬RemarksBlank sql) := by
  rw [compile, Attempt.bind_eq_ok_iff] at hcompile
  obtain ⟨structs, hread, htext⟩ := hcompile
  obtain rfl := Except.ok.inj htext
  obtain ⟨declarations, hparse, -, hgives⟩ := readStructs_eq_ok_iff.mp hread
  have hcomments := map_comment_of_gives hgives
  obtain ⟨tables, -, hstructs⟩ := hgives
  have hlines := Struct.oneLine_of_structsOf_eq_ok hstructs
  constructor
  · obtain ⟨front, last, hsource, hne⟩ := exists_sourceLines_eq_concat options.package structs
    have hlast : OneLine last :=
      oneLine_of_mem_sourceLines (oneLine_package hoptions) hlines last (by simp [hsource])
    obtain ⟨hend, heq⟩ := source_eq_of_concat hsource hne hlast
    exact ⟨_, heq, hend⟩
  · have hblank : RemarksBlank sql ↔ ∃ comment ∈ declarations.map (·.comment), BlankComment comment := by
      simp [RemarksBlank, hparse]
    rw [forall_linesOf_iff hoptions hlines, hblank, ← hcomments]
    simp

def blankRemarkOptions : Options := { nullStyle := .pointer, forceTableName := true }

/-- A blank comment of a column leaves no trace, that of a table does. -/
def blankRemarkSql : String := "CREATE TABLE t (a INT COMMENT ' ') COMMENT ' '"

def blankRemarkText : String :=
  "package model\n\n// T \ntype T struct \x7b\n\tA *int32 \x60gorm:\"column:a\"\x60\n\x7d\n\n" ++
    "func (m *T) TableName() string \x7b\n\treturn \"t\"\n\x7d\n"

theorem compile_blankRemark : compile blankRemarkOptions blankRemarkSql = .ok blankRemarkText := by
  decide +kernel

theorem lineEnds_of_blankRemark :
    (∃ body, blankRemarkText = body ++ "\n" ∧ body.toList.getLast? ≠ some '\n') ∧
      ((∀ line ∈ linesOf blankRemarkText, NoTrailingBlank line) ↔ ¬RemarksBlank blankRemarkSql) := by
  have hoptions : Options.ofEntries [("null_style", .text "ptr"), ("force_table_name", .bool true)] =
      .ok blankRemarkOptions := rfl
  exact lineEnds_of_compile hoptions compile_blankRemark

theorem blankRemark_ends_in_blank :
    ∃ text, compile blankRemarkOptions blankRemarkSql = .ok text ∧
      ¬∀ line ∈ linesOf text, NoTrailingBlank line := by
  refine ⟨blankRemarkText, compile_blankRemark, ?_⟩
  decide +kernel

end GormModels.Go
