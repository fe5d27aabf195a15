import GormModels.Cli.Switch
import GormModels.Text.Blank

/-!
The usage and the help of the command, broken into lines of 78 characters at most.
-/

namespace GormModels.Cli

def program : String := "gorm-gen"

def about : String := "Generate Go GORM model structs from MySQL CREATE TABLE statements."

def lineWidth : Nat := 78

/-- Parts set into lines, each after a space: the lines begun so far, the last one first. A part moves to a
new line, behind a margin, if it does not fit. -/
def setParts (width : Nat) (margin : String) (lines : List String) : List String → List String
  | [] => lines.reverse
  | part :: parts =>
    match lines with
    | line :: before =>
      if line.length + 1 + part.length > width then
        setParts width margin ((margin ++ part) :: line :: before) parts
      else setParts width margin ((line ++ " " ++ part) :: before) parts
    | [] => setParts width margin [margin ++ part] parts

def spaces (n : Nat) : String := .ofList (List.replicate n ' ')

/-- A switch as it stands in the usage. -/
def Switch.short (s : Switch) : String :=
  let name := s.names.head?.getD ""
  "[" ++ (if s.effect.takesValue then name ++ " " ++ s.placeholder else name) ++ "]"

/-- A switch by all its names. -/
def Switch.long (s : Switch) : String :=
  ", ".intercalate (s.names.map fun name =>
    if s.effect.takesValue then name ++ " " ++ s.placeholder else name)

def usage : String :=
  let start := "usage: " ++ program
  let lines := setParts lineWidth (spaces (start.length + 1)) [start] (switches.map Switch.short)
  "\n".intercalate lines ++ "\n"

/-- The column of the descriptions in the help. -/
def helpColumn : Nat := 24

def wordsOf (s : String) : List String := (Text.words s.toList).map .ofList

/-- The lines of a switch in the help. One that is too long for its column has a line of its own. -/
def Switch.help (s : Switch) : List String :=
  let head := "  " ++ s.long
  let lines := setParts (lineWidth - helpColumn) "" [] (wordsOf s.about)
  let margin := spaces helpColumn
  match lines with
  | first :: more =>
    if head.length + 2 > helpColumn then head :: lines.map (margin ++ ·)
    else (head ++ spaces (helpColumn - head.length) ++ first) :: more.map (margin ++ ·)
  | [] => [head]

def helpText : String :=
  let lines := [usage, about, "", "options:"] ++ switches.flatMap Switch.help
  "\n".intercalate lines ++ "\n"

end GormModels.Cli
