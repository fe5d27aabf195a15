import GormModels.Go.Struct
import GormModels.Json.Text
import GormModels.Text.Blank

/-!
Go source for structs, laid out as the formatter of the language would: names, types and tags of fields
stand in columns, and so do the comments behind them.
-/

namespace GormModels.Go

/-- A comment on one line. -/
def commentText (text : String) : String := .ofList (Text.collapse text.toList)

/-- An interpreted string literal. -/
def stringLiteral (text : String) : String := Json.quote text

def padRight (width : Nat) (s : String) : String :=
  s ++ .ofList (List.replicate (width - s.length) ' ')

/-- The widths of the columns that the fields of a struct are laid out in. -/
structure Widths where
  name : Nat
  type : Nat
  tag : Nat

def greatest (sizes : List Nat) : Nat := sizes.foldl max 0

def Widths.of (fields : List Field) : Widths :=
  ⟨greatest (fields.map (·.name.length)), greatest (fields.map (·.type.length)),
    greatest (fields.map (·.tag.length))⟩

def quotedTag (tag : String) : String := "\x60" ++ tag ++ "\x60"

/-- The line of a field. A comment that is blank is left out. -/
def fieldLine (w : Widths) (f : Field) : String :=
  let body := padRight w.name f.name ++ " " ++ padRight w.type f.type ++ " " ++ quotedTag f.tag
  let comment := commentText (f.comment.getD "")
  if comment == "" then body
  else body ++ .ofList (List.replicate (w.tag - f.tag.length) ' ') ++ " // " ++ comment

def fieldLines (s : Struct) : List String := s.fields.map (fieldLine (.of s.fields))

def structLines (s : Struct) : List String :=
  (match s.comment with
    | some c => if c == "" then [] else ["// " ++ s.name ++ " " ++ commentText c]
    | none => []) ++
  ["type " ++ s.name ++ " struct \x7b"] ++ (fieldLines s).map ("\t" ++ ·) ++ ["\x7d"] ++
  (if s.namesTable then
    ["", "func (m *" ++ s.name ++ ") TableName() string \x7b", "\treturn " ++ stringLiteral s.table, "\x7d"]
  else [])

def importLines (imports : List String) : List String :=
  if imports.isEmpty then []
  else ["", "import ("] ++ imports.map (fun path => "\t" ++ stringLiteral path) ++ [")"]

/-- The packages that any of the structs needs, sorted and each once. -/
def importsOf (structs : List Struct) : List String := sortedSet (structs.flatMap (·.imports))

def sourceLines (package : String) (structs : List Struct) : List String :=
  ["package " ++ package] ++ importLines (importsOf structs) ++
    structs.flatMap fun s => "" :: structLines s

/-- Without the line feeds at its end. -/
def trimLineFeeds (s : String) : String :=
  .ofList (s.toList.reverse.dropWhile (· == '\n')).reverse

/-- A source file with one package clause, the packages that the structs need, and the structs. -/
def source (package : String) (structs : List Struct) : String :=
  trimLineFeeds ("\n".intercalate (sourceLines package structs)) ++ "\n"

end GormModels.Go
