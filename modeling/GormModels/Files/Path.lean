import GormModels.Text.Split

/-!
Paths of files: their components, and the text that shows them.
-/

namespace GormModels.Files

/-- A path: the slashes that it starts from, none for a relative one, and its components, among which there
is neither an empty one nor a single dot. -/
structure Path where
  root : String
  parts : List String
  deriving DecidableEq, Repr

/-- Two slashes at the start are kept, more count as one. -/
def rootOf (s : List Char) : String :=
  match (s.takeWhile (· == '/')).length with
  | 0 => ""
  | 2 => "//"
  | _ => "/"

def Path.ofText (s : String) : Path :=
  let parts := (Text.split '/' s.toList).map String.ofList
  { root := rootOf s.toList
    parts := parts.filter fun part => part != "" && part != "." }

def Path.text (p : Path) : String :=
  if p.root == "" && p.parts.isEmpty then "." else p.root ++ "/".intercalate p.parts

end GormModels.Files
