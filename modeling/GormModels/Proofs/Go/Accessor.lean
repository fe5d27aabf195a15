import Mathlib.Data.List.Infix
import GormModels.Proofs.Batch
import GormModels.Proofs.Go.FieldLine

/-!
# Accessors of table names

The literal that a table name is written as is read as that name, whatever signs it has. So the accessor of a struct
returns the name of its table, and it is the only one for that struct in its file.
-/

namespace GormModels.Go

variable {name package : String} {s : Struct} {before after structs : List Struct}

/-- The literal is one line in quotation marks and is read as the text. -/
structure Denotes (literal text : String) : Prop where
  oneLine : OneLine literal
  quoted : ∃ body, literal.toList = '"' :: body ++ ['"']
  value : unquote? literal.toList = some text

/-- The line that opens the accessor of a struct. -/
def accessorHead (name : String) : String := "func (m *" ++ name ++ ") TableName() string \x7b"

/-- An accessor that returns the literal, with the empty line above it. -/
def accessorText (name literal : String) : String :=
  "\n" ++ accessorHead name ++ "\n\treturn " ++ literal ++ "\n\x7d\n"

/-- What the accessor of a struct returns, read from the line below the first one that opens it. -/
def returned? (name text : String) : Option String :=
  match (linesOf text).dropWhile (· != (accessorHead name).toList) with
  | _ :: body :: _ => ("\treturn ".toList.isPrefixOf? body).bind unquote?
  | _ => none

theorem denotes_stringLiteral (text : String) : Denotes (stringLiteral text) text := by
  refine ⟨oneLine_stringLiteral text, ?_, unquote?_stringLiteral text⟩
  rw [stringLiteral, Json.quote, String.toList_ofList]
  exact ⟨_, rfl⟩

/-! ### The lines around an accessor -/

theorem structLines_of_namesTable (hnames : s.namesTable = true) : structLines s =
    structLines { s with namesTable := false } ++
      ["", accessorHead s.name, "\treturn " ++ stringLiteral s.table, "\x7d"] := by
  simp only [structLines, hnames, accessorHead, fieldLines]
  simp

/-- The lines of a file that stand before the accessor of a struct. -/
def linesBefore (package : String) (before : List Struct) (s : Struct) (after : List Struct) : List String :=
  ["package " ++ package] ++ importLines (importsOf (before ++ s :: after)) ++
    (before.flatMap fun s => "" :: structLines s) ++ "" :: structLines { s with namesTable := false } ++ [""]

theorem sourceLines_eq_append (package : String) (hnames : s.namesTable = true) :
    sourceLines package (before ++ s :: after) = linesBefore package before s after ++
      accessorHead s.name :: ("\treturn " ++ stringLiteral s.table) :: "\x7d" ::
        after.flatMap fun s => "" :: structLines s := by
  simp [sourceLines, linesBefore, structLines_of_namesTable hnames]

theorem head?_accessorHead (name : String) : (accessorHead name).toList.head? = some 'f' := by
  rw [accessorHead, String.append_assoc, String.toList_append]
  rfl

theorem accessorHead_injective : Function.Injective accessorHead := by
  intro name other heq
  have hchars := congrArg String.toList heq
  simp only [accessorHead, String.toList_append, List.append_assoc, List.append_right_inj,
    List.append_left_inj] at hchars
  exact String.toList_injective hchars

theorem eq_of_accessorHead_mem_structLines (hmem : accessorHead name ∈ structLines s) :
    s.namesTable = true ∧ s.name = name := by
  have hhead := head?_accessorHead name
  obtain ⟨comment, -, -, heq⟩ | heq | ⟨f, -, heq⟩ | ⟨hnames, heq⟩ | heq | heq | heq := mem_structLines hmem
  case inr.inr.inr.inl => exact ⟨hnames, (accessorHead_injective heq).symm⟩
  all_goals simp [heq] at hhead

theorem accessorHead_not_mem_importLines (name : String) (paths : List String) :
    accessorHead name ∉ importLines paths := by
  intro hmem
  have hhead := head?_accessorHead name
  obtain heq | heq | ⟨path, heq⟩ | heq := mem_importLines hmem
  all_goals simp [heq] at hhead

/-- No struct before it has an accessor that could be taken for this one. -/
theorem accessorHead_not_mem_linesBefore (hbefore : ∀ other ∈ before, other.name ≠ s.name) :
    accessorHead s.name ∉ linesBefore package before s after := by
  intro hmem
  have hhead := head?_accessorHead s.name
  simp only [linesBefore, List.mem_append, List.mem_flatMap, List.mem_cons, List.not_mem_nil, or_false] at hmem
  obtain (((heq | hmem) | ⟨other, hother, heq | hmem⟩) | heq | hmem) | heq := hmem
  · simp [heq] at hhead
  · exact accessorHead_not_mem_importLines _ _ hmem
  · simp [heq] at hhead
  · exact hbefore other hother (eq_of_accessorHead_mem_structLines hmem).2
  · simp [heq] at hhead
  · exact Bool.false_ne_true (eq_of_accessorHead_mem_structLines hmem).1
  · simp [heq] at hhead

/-! ### Accessors in a file -/

theorem toList_source (hstructs : structs ≠ []) : (source package structs).toList =
    (sourceLines package structs).flatMap fun line => line.toList ++ ['\n'] := by
  obtain ⟨front, hfront⟩ := List.getLast?_eq_some_iff.mp (getLast?_sourceLines package hstructs)
  have hlines : (sourceLines package structs).map String.toList ≠ [] := by simp [hfront]
  rw [(source_eq_of_concat hfront (by decide) (by decide)).2, String.toList_append, String.toList_intercalate,
    Text.intercalate_append_sep hlines, List.flatMap_map]
  rfl

theorem accessorText_isInfix_source (hs : s ∈ structs) (hnames : s.namesTable = true) :
    (accessorText s.name (stringLiteral s.table)).toList <:+: (source package structs).toList := by
  obtain ⟨before, after, rfl⟩ := List.append_of_mem hs
  have hblock : (accessorText s.name (stringLiteral s.table)).toList =
      ["", accessorHead s.name, "\treturn " ++ stringLiteral s.table, "\x7d"].flatMap fun line =>
        line.toList ++ ['\n'] := by simp [accessorText]
  have hlines : ["", accessorHead s.name, "\treturn " ++ stringLiteral s.table, "\x7d"] <:+:
      sourceLines package (before ++ s :: after) := by
    rw [sourceLines_eq_append package hnames, linesBefore, List.append_assoc]
    exact ⟨_, _, List.append_assoc _ _ _⟩
  rw [toList_source (by simp), hblock]
  exact hlines.flatMap _

theorem returned?_source (hpackage : OneLine package) (hlines : ∀ s ∈ structs, s.OneLine)
    (hnodup : (structs.map (·.name)).Nodup) (hs : s ∈ structs) (hnames : s.namesTable = true) :
    returned? s.name (source package structs) = some s.table := by
  obtain ⟨before, after, rfl⟩ := List.append_of_mem hs
  have hbefore : ∀ other ∈ before, other.name ≠ s.name := by
    rw [List.map_append, List.nodup_append'] at hnodup
    intro other hother heq
    exact hnodup.2.2 (List.mem_map_of_mem hother) (by simp [heq])
  have hhead : (accessorHead s.name).toList ∉ (linesBefore package before s after).map String.toList :=
    mt (List.mem_map_of_injective fun _ _ => String.toList_injective).mp (accessorHead_not_mem_linesBefore hbefore)
  have hprefix : ∀ literal, "\treturn ".toList.isPrefixOf? ("\treturn ".toList ++ literal) = some literal :=
    fun _ => rfl
  rw [returned?, linesOf_source hpackage hlines, sourceLines_eq_append package hnames, List.map_append, List.map_cons,
    List.map_cons, List.append_assoc, List.cons_append, Text.dropWhile_ne_append hhead, List.cons_append]
  dsimp only
  rw [String.toList_append, hprefix, Option.bind_some, unquote?_stringLiteral]

/-- A literal is read as the text it was made of. So the accessor of a struct returns the name of its table, and
that is the name that the table came with. -/
theorem accessor_returns_table [Naming.Inflection] :
    (∀ text, Denotes (stringLiteral text) text) ∧
    (∀ (package : String) (structs : List Struct), ∀ s ∈ structs, s.namesTable = true →
      ∃ literal, Denotes literal s.table ∧
        (accessorText s.name literal).toList <:+: (source package structs).toList) ∧
    ∀ (package : String) (options : Options) (tables : List Table) (structs : List Struct), OneLine package →
      structsOf options tables = .ok structs → List.Forall₂ (fun t s => s.table = t.name) tables structs ∧
        ∀ s ∈ structs, s.namesTable = true → returned? s.name (source package structs) = some s.table := by
  refine ⟨denotes_stringLiteral, ?_, ?_⟩
  · intro package structs s hs hnames
    exact ⟨_, denotes_stringLiteral s.table, accessorText_isInfix_source hs hnames⟩
  · intro package options tables structs hpackage hstructs
    refine ⟨(isStructOf_of_structsOf_eq_ok hstructs).imp fun _ _ => IsStructOf.table, fun s hs hnames => ?_⟩
    obtain ⟨hnodup, hmade⟩ := structsOf_eq_ok_iff.mp hstructs
    rw [← map_name_of_structs hmade] at hnodup
    exact returned?_source hpackage (Struct.oneLine_of_structsOf_eq_ok hstructs) hnodup hs hnames

theorem accessor_returns_remark :
    (∃ literal, Denotes literal "re\"\nmark" ∧
      (accessorText "ReMark" literal).toList <:+: (source "model" [remarkStruct]).toList) ∧
    List.Forall₂ (fun t s => s.table = t.name) [remarkTable] [remarkStruct] ∧
    returned? "ReMark" (source "model" [remarkStruct]) = some "re\"\nmark" := by
  obtain ⟨-, hblock, hreturns⟩ := accessor_returns_table
  obtain ⟨htables, hvalue⟩ := hreturns "model" _ _ _ (by decide) structsOf_remarkTable
  exact ⟨hblock "model" _ remarkStruct List.mem_cons_self rfl, htables, hvalue remarkStruct List.mem_cons_self rfl⟩

end GormModels.Go
