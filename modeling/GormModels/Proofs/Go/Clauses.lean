import GormModels.Proofs.Go.FieldLine
import GormModels.Proofs.Options

/-!
# Reading a source file back

The clauses of a source file are read line by line, without a look at how wide its columns are. Comments are
dropped, so what is left is told by the structs alone: no text that a table brings along adds a clause, hides one
or moves it.
-/

namespace GormModels.Go

inductive Clause
  | package (name : String)
  | importPath (path : String)
  | struct (name : String)
  | field (name type tag : String)
  | accessor (struct table : String)
  deriving DecidableEq, Repr

/-- Where the lines read so far leave off. -/
inductive Place
  | top
  | imports
  | fields
  | method (receiver : String)
  | methodEnd
  deriving DecidableEq, Repr

/-- The word at the start of a text, and what stands behind the blanks that end it. -/
def splitWord (s : List Char) : List Char × List Char :=
  (s.takeWhile (· != ' '), (s.dropWhile (· != ' ')).dropWhile (· == ' '))

def readField (line : List Char) : Option Clause :=
  let (name, rest) := splitWord line
  let (type, rest) := splitWord rest
  if rest.head? = some '\x60' then
    (rawText? rest).map fun tag => .field (.ofList name) (.ofList type) (.ofList tag)
  else none

def readTop (line : List Char) : Option (List Clause × Place) :=
  if line = "import (".toList then some ([], .imports)
  else if let some name := "package ".toList.isPrefixOf? line then some ([.package (.ofList name)], .top)
  else if let some rest := "type ".toList.isPrefixOf? line then
    let (name, rest) := splitWord rest
    if rest = "struct \x7b".toList then some ([.struct (.ofList name)], .fields) else none
  else if let some rest := "func (m *".toList.isPrefixOf? line then
    if rest.dropWhile (· != ')') = ") TableName() string \x7b".toList then
      some ([], .method (.ofList (rest.takeWhile (· != ')'))))
    else none
  else none

def readCode (line : List Char) : Place → Option (List Clause × Place)
  | .top => readTop line
  | .imports =>
    if line = ")".toList then some ([], .top)
    else do
      let path ← unquote? (← "\t".toList.isPrefixOf? line)
      return ([.importPath path], .imports)
  | .fields =>
    if line = "\x7d".toList then some ([], .top)
    else do
      let field ← readField (← "\t".toList.isPrefixOf? line)
      return ([field], .fields)
  | .method receiver => do
    let table ← unquote? (← "\treturn ".toList.isPrefixOf? line)
    return ([.accessor receiver table], .methodEnd)
  | .methodEnd => if line = "\x7d".toList then some ([], .top) else none

/-- Reads one line. Empty ones and those that start with a comment declare nothing. -/
def readLine (place : Place) (line : List Char) : Option (List Clause × Place) :=
  if line = [] ∨ "//".toList <+: line then some ([], place) else readCode line place

def readLines (place : Place) : List (List Char) → Option (List Clause × Place)
  | [] => some ([], place)
  | line :: lines => do
    let (clauses, next) ← readLine place line
    let (more, last) ← readLines next lines
    return (clauses ++ more, last)

/-- The clauses of a source text, whose declarations must all be ended. -/
def readSource (text : String) : Option (List Clause) := do
  match ← readLines .top (linesOf text) with
  | (clauses, .top) => some clauses
  | _ => none

def Struct.clauses (s : Struct) : List Clause :=
  .struct s.name :: s.fields.map (fun f => .field f.name f.type f.tag) ++
    if s.namesTable then [.accessor s.name s.table] else []

def clausesOf (package : String) (structs : List Struct) : List Clause :=
  .package package :: (importsOf structs).map .importPath ++ structs.flatMap Struct.clauses

/-- The lines hold the clauses and lead from one place to another. -/
def Reads (place : Place) (lines : List String) (clauses : List Clause) (next : Place) : Prop :=
  readLines place (lines.map String.toList) = some (clauses, next)

variable {options : Options} {place next last : Place} {s : Struct} {structs : List Struct}

namespace Reads

theorem nil (place : Place) : Reads place [] [] place := rfl

theorem cons {line : String} {lines : List String} {clauses more : List Clause}
    (hline : readLine place line.toList = some (clauses, next)) (hlines : Reads next lines more last) :
    Reads place (line :: lines) (clauses ++ more) last := by
  rw [Reads] at hlines ⊢
  rw [List.map_cons, readLines, hline]
  simp only [bind, Option.bind, hlines]
  rfl

theorem append {lines lines' : List String} {clauses clauses' : List Clause}
    (hlines : Reads place lines clauses next) (hlines' : Reads next lines' clauses' last) :
    Reads place (lines ++ lines') (clauses ++ clauses') last := by
  induction lines generalizing place clauses with
  | nil =>
      cases hlines
      exact hlines'
  | cons line lines ih =>
      simp only [Reads, List.map_cons, readLines, Option.bind_eq_bind, Option.bind_eq_some_iff] at hlines
      obtain ⟨⟨first, middle⟩, hline, ⟨more, _⟩, hmore, heq⟩ := hlines
      cases heq
      rw [List.cons_append, List.append_assoc]
      exact .cons hline (ih hmore)

theorem skip {lines lines' : List String} {clauses : List Clause} (hlines : Reads place lines [] next)
    (hlines' : Reads next lines' clauses last) : Reads place (lines ++ lines') clauses last :=
  hlines.append hlines'

theorem map {α : Type} {line : α → String} {clause : α → Clause} {items : List α}
    (hline : ∀ a ∈ items, readLine place (line a).toList = some ([clause a], place)) :
    Reads place (items.map line) (items.map clause) place := by
  induction items with
  | nil => exact .nil place
  | cons a items ih =>
      obtain ⟨ha, hitems⟩ := List.forall_mem_cons.mp hline
      exact .cons ha (ih hitems)

theorem flatMap {α : Type} {lines : α → List String} {clauses : α → List Clause} {items : List α}
    (hlines : ∀ a ∈ items, Reads place (lines a) (clauses a) place) :
    Reads place (items.flatMap lines) (items.flatMap clauses) place := by
  induction items with
  | nil => exact .nil place
  | cons a items ih =>
      obtain ⟨ha, hitems⟩ := List.forall_mem_cons.mp hlines
      exact .append ha (ih hitems)

end Reads

/-! ### Single lines -/

theorem splitWord_append {word blanks rest : List Char} (hword : ' ' ∉ word) (hblanks : ∀ c ∈ blanks, c = ' ')
    (hrest : rest.head? ≠ some ' ') : splitWord (word ++ ' ' :: (blanks ++ rest)) = (word, rest) := by
  have hstop : rest.dropWhile (· == ' ') = rest := by
    cases rest with
    | nil => rfl
    | cons c rest => exact List.dropWhile_cons_of_neg (by simpa using hrest)
  rw [splitWord, Text.takeWhile_ne_append hword, Text.dropWhile_ne_append hword, List.dropWhile_cons_of_pos (by simp),
    List.dropWhile_append_of_pos (by simpa using hblanks), hstop]

theorem splitWord_padRight {text : String} {rest : List Char} (htext : ' ' ∉ text.toList)
    (hrest : rest.head? ≠ some ' ') (width : Nat) :
    splitWord ((padRight width text ++ " ").toList ++ rest) = (text.toList, rest) := by
  -- The blank behind the padding is taken for the first of it, as it is there whatever the width.
  have hpad : (padRight width text ++ " ").toList ++ rest =
      text.toList ++ ' ' :: (List.replicate (width - text.length) ' ' ++ rest) := by
    rw [← List.cons_append, ← List.replicate_succ, List.replicate_succ']
    simp [padRight]
  rw [hpad]
  exact splitWord_append htext (fun c hc => List.eq_of_mem_replicate hc) hrest

theorem readField_fieldLine {f : Field} (hf : f.Legible) (w : Widths) :
    readField (fieldLine w f).toList = some (.field f.name f.type f.tag) := by
  have hchars : (fieldLine w f).toList = (padRight w.name f.name ++ " ").toList ++
      ((padRight w.type f.type ++ " ").toList ++ ('\x60' :: f.tag.toList ++ '\x60' :: (commentPart w f).toList)) := by
    simp [fieldLine_eq, quotedTag]
  have htype : ((padRight w.type f.type ++ " ").toList ++
      ('\x60' :: f.tag.toList ++ '\x60' :: (commentPart w f).toList)).head? ≠ some ' ' := by
    obtain ⟨c, rest, hcons⟩ := List.exists_cons_of_ne_nil (mt String.toList_eq_nil_iff.mp hf.type.2.2)
    have hspace : ' ' ∉ c :: rest := hcons ▸ hf.type.1
    rw [List.mem_cons, not_or] at hspace
    simpa [padRight, hcons, eq_comm] using hspace.1
  have htag : rawText? ([] ++ '\x60' :: f.tag.toList ++ '\x60' :: (commentPart w f).toList) = some f.tag.toList :=
    rawText?_append (by simp) hf.tag (commentPart w f).toList
  rw [readField, hchars, splitWord_padRight hf.name.1 htype]
  dsimp only
  rw [splitWord_padRight hf.type.1 (by simp)]
  dsimp only
  rw [List.nil_append] at htag
  rw [htag, if_pos (by simp)]
  simp

theorem readLine_of_head {line : List Char} {c : Char} (hhead : line.head? = some c) (hslash : c ≠ '/') :
    readLine place line = readCode line place := by
  refine if_neg ?_
  rintro (rfl | ⟨rest, rfl⟩)
  · cases hhead
  · exact hslash (Option.some.inj hhead).symm

theorem readLine_blank (place : Place) : readLine place "".toList = some ([], place) := if_pos (.inl rfl)

theorem readLine_comment (place : Place) (text : String) :
    readLine place ("// " ++ text).toList = some ([], place) := by
  refine if_pos (.inr ?_)
  rw [String.toList_append]
  exact ⟨" ".toList ++ text.toList, by simp⟩

theorem readLine_package (name : String) :
    readLine .top ("package " ++ name).toList = some ([.package name], .top) := by
  rw [readLine_of_head (c := 'p') (by rw [String.toList_append]; rfl) (by decide), String.toList_append]
  have hname : readCode ("package ".toList ++ name.toList) .top =
      some ([.package (.ofList name.toList)], .top) := rfl
  rw [hname, String.ofList_toList]

theorem readLine_struct {name : String} (hname : ' ' ∉ name.toList) :
    readLine .top ("type " ++ name ++ " struct \x7b").toList = some ([.struct name], .fields) := by
  have hchars : ("type " ++ name ++ " struct \x7b").toList =
      "type ".toList ++ (name.toList ++ ' ' :: ([] ++ "struct \x7b".toList)) := by simp
  have hread : ∀ rest, readCode ("type ".toList ++ rest) .top =
      if (splitWord rest).2 = "struct \x7b".toList then some ([.struct (.ofList (splitWord rest).1)], .fields)
      else none := fun _ => rfl
  have hsplit := splitWord_append hname (List.forall_mem_nil _) (by decide : "struct \x7b".toList.head? ≠ some ' ')
  rw [hchars, readLine_of_head (c := 't') rfl (by decide), hread, hsplit]
  refine (if_pos rfl).trans ?_
  rw [String.ofList_toList]

theorem readLine_accessor {name : String} (hname : ')' ∉ name.toList) :
    readLine .top ("func (m *" ++ name ++ ") TableName() string \x7b").toList = some ([], .method name) := by
  let rest := " TableName() string \x7b".toList
  have hchars : ("func (m *" ++ name ++ ") TableName() string \x7b").toList =
      "func (m *".toList ++ (name.toList ++ ')' :: rest) := by simp [rest]
  have hread : ∀ rest, readCode ("func (m *".toList ++ rest) .top =
      if rest.dropWhile (· != ')') = ") TableName() string \x7b".toList then
        some ([], .method (.ofList (rest.takeWhile (· != ')'))))
      else none := fun _ => rfl
  have hrest : ')' :: rest = ") TableName() string \x7b".toList := rfl
  rw [hchars, readLine_of_head (c := 'f') rfl (by decide), hread, Text.dropWhile_ne_append hname,
    Text.takeWhile_ne_append hname, if_pos hrest, String.ofList_toList]

theorem readLine_import (path : String) :
    readLine .imports ("\t" ++ stringLiteral path).toList = some ([.importPath path], .imports) := by
  have hread : ∀ literal, readCode ("\t".toList ++ literal) .imports =
      (do
        let path ← unquote? literal
        return ([.importPath path], .imports)) := fun _ => rfl
  rw [String.toList_append, readLine_of_head (c := '\t') rfl (by decide), hread, unquote?_stringLiteral]
  rfl

theorem readLine_field {f : Field} (hf : f.Legible) (w : Widths) :
    readLine .fields ("\t" ++ fieldLine w f).toList = some ([.field f.name f.type f.tag], .fields) := by
  have hread : ∀ line, readCode ("\t".toList ++ line) .fields =
      (do
        let field ← readField line
        return ([field], .fields)) := fun _ => rfl
  rw [String.toList_append, readLine_of_head (c := '\t') rfl (by decide), hread, readField_fieldLine hf]
  rfl

theorem readLine_return (receiver table : String) :
    readLine (.method receiver) ("\treturn " ++ stringLiteral table).toList =
      some ([.accessor receiver table], .methodEnd) := by
  have hread : ∀ literal, readCode ("\treturn ".toList ++ literal) (.method receiver) =
      (do
        let table ← unquote? literal
        return ([.accessor receiver table], .methodEnd)) := fun _ => rfl
  rw [String.toList_append, readLine_of_head (c := '\t') rfl (by decide), hread, unquote?_stringLiteral]
  rfl

/-! ### Blocks of lines -/

structure Struct.Legible (s : Struct) : Prop where
  name : ' ' ∉ s.name.toList ∧ ')' ∉ s.name.toList
  fields : ∀ f ∈ s.fields, f.Legible

theorem Struct.legible_of_structsOf_eq_ok [Naming.Inflection] {tables : List Table}
    (hstructs : structsOf options tables = .ok structs) :
    ∀ s ∈ structs, s.Legible := by
  rw [structsOf_of_nodup (nodup_of_structsOf_eq_ok hstructs), Attempt.mapM_eq_ok_iff] at hstructs
  intro s hs
  obtain ⟨t, -, hs⟩ := Attempt.exists_of_forall₂_of_mem hstructs.flip hs
  refine ⟨?_, fun f hf => ?_⟩
  · rw [(isStructOf_of_structOf_eq_ok hs).name]
    exact ⟨space_not_mem_goNameText _, not_mem_goNameText (by decide) _⟩
  · obtain ⟨c, -, imports, hfield⟩ := Attempt.exists_of_forall₂_of_mem (fields_of_structOf_eq_ok hs).flip hf
    exact legible_of_fieldOf_eq_ok hfield

theorem reads_importLines (paths : List String) :
    Reads .top (importLines paths) (paths.map .importPath) .top := by
  unfold importLines
  split
  case isTrue hnone =>
      rw [List.isEmpty_iff] at hnone
      rw [hnone]
      exact .nil .top
  case isFalse =>
      have hopen : Reads .top ["", "import ("] [] .imports := rfl
      have hclose : Reads .imports [")"] [] .top := rfl
      have hpaths : Reads .imports (paths.map fun path => "\t" ++ stringLiteral path) (paths.map .importPath)
          .imports := .map fun path _ => readLine_import path
      simpa using (hopen.append hpaths).append hclose

theorem reads_accessorLines (hs : s.Legible) : Reads .top
    ["", "func (m *" ++ s.name ++ ") TableName() string \x7b", "\treturn " ++ stringLiteral s.table, "\x7d"]
    [.accessor s.name s.table] .top := by
  have hblank : Reads .top [""] [] .top := .cons (readLine_blank .top) (.nil .top)
  have hhead : Reads .top ["func (m *" ++ s.name ++ ") TableName() string \x7b"] [] (.method s.name) :=
    .cons (readLine_accessor hs.name.2) (.nil _)
  have hreturn : Reads (.method s.name) ["\treturn " ++ stringLiteral s.table] [.accessor s.name s.table]
      .methodEnd := .cons (readLine_return s.name s.table) (.nil _)
  have hbrace : Reads .methodEnd ["\x7d"] [] .top := rfl
  exact hblank.skip (hhead.skip (hreturn.append hbrace))

theorem reads_structLines (hs : s.Legible) : Reads .top ("" :: structLines s) s.clauses .top := by
  have hblank : Reads .top [""] [] .top := .cons (readLine_blank .top) (.nil .top)
  have hopen : Reads .top ["type " ++ s.name ++ " struct \x7b"] [.struct s.name] .fields :=
    .cons (readLine_struct hs.name.1) (.nil .fields)
  have hfields : Reads .fields ((fieldLines s).map ("\t" ++ ·))
      (s.fields.map fun f => .field f.name f.type f.tag) .fields := by
    rw [fieldLines, List.map_map]
    exact .map fun f hf => readLine_field (hs.fields f hf) _
  have hbrace : Reads .fields ["\x7d"] [] .top := rfl
  unfold structLines Struct.clauses
  simp only [List.append_assoc]
  -- Comment and accessor are there or not; all other lines are in every struct.
  refine hblank.skip (.skip ?_ (hopen.append (hfields.append (hbrace.skip ?_))))
  · split
    · split
      · exact .nil .top
      · rw [String.append_assoc, String.append_assoc]
        exact .cons (readLine_comment .top _) (.nil .top)
    · exact .nil .top
  · split
    · exact reads_accessorLines hs
    · exact .nil .top

theorem reads_sourceLines (hstructs : ∀ s ∈ structs, s.Legible) (package : String) :
    Reads .top (sourceLines package structs) (clausesOf package structs) .top := by
  have hpackage : Reads .top ["package " ++ package] [.package package] .top :=
    .cons (readLine_package package) (.nil .top)
  have hdeclarations : Reads .top (structs.flatMap fun s => "" :: structLines s) (structs.flatMap Struct.clauses)
      .top := .flatMap fun s hs => reads_structLines (hstructs s hs)
  exact (hpackage.append (reads_importLines (importsOf structs))).append hdeclarations

/-- A source file read line by line, without its comments, declares its package, its imports, and the structs with
their fields and accessors in their order, each as it was meant, and nothing else. -/
theorem readSource_source [Naming.Inflection] [Validator] {tables : List Table} {entries : List (String × Value)}
    (hoptions : Options.ofEntries entries = .ok options) (hstructs : structsOf options tables = .ok structs) :
    readSource (source options.package structs) = some (clausesOf options.package structs) := by
  have hpackage : OneLine options.package := fun hnewline =>
    absurd (Options.isNameChar_of_ofEntries_eq_ok hoptions _ hnewline) (by decide)
  have hlines := reads_sourceLines (Struct.legible_of_structsOf_eq_ok hstructs) options.package
  have hend : readLines .top ((sourceLines options.package structs).map String.toList ++ [[]]) =
      some (clausesOf options.package structs, .top) := by
    simpa [Reads] using hlines.append (.cons (readLine_blank .top) (.nil .top))
  rw [readSource, linesOf_source hpackage (Struct.oneLine_of_structsOf_eq_ok hstructs), hend]
  rfl

theorem readSource_remark :
    Options.ofEntries [("json_tag", .bool true), ("null_style", .text "ptr"), ("force_table_name", .bool true)] =
      .ok remarkOptions ∧
    structsOf remarkOptions [remarkTable] = .ok [remarkStruct] ∧
    readSource (source "model" [remarkStruct]) = some (clausesOf "model" [remarkStruct]) := by
  have hoptions : Options.ofEntries
      [("json_tag", .bool true), ("null_style", .text "ptr"), ("force_table_name", .bool true)] =
        .ok remarkOptions := rfl
  have hpackage : remarkOptions.package = "model" := rfl
  rw [← hpackage]
  exact ⟨hoptions, structsOf_remarkTable, readSource_source hoptions structsOf_remarkTable⟩

end GormModels.Go
