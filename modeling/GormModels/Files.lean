import GormModels.Files.Path
import GormModels.Text.Utf8
import GormModels.Value.Display

/-!
A tree of files, and how paths find their way in it. What is not in the tree cannot be seen.
-/

namespace GormModels.Files

/-- Why a file cannot be opened. -/
inductive Refusal
  | missing
  | notDirectory
  | directory
  | nameTooLong
  /-- No name of a file has a null character in it. -/
  | nullCharacter
  deriving DecidableEq, Repr

/-- The number and the text of a refusal, where it is one of the system. -/
def Refusal.system? : Refusal → Option (Nat × String)
  | missing => some (2, "No such file or directory")
  | notDirectory => some (20, "Not a directory")
  | directory => some (21, "Is a directory")
  | nameTooLong => some (36, "File name too long")
  | nullCharacter => none

def Refusal.message (path : Path) (r : Refusal) : String :=
  match r.system? with
  | some (number, text) =>
    "[Errno " ++ toString number ++ "] " ++ text ++ ": " ++ Value.showText path.text
  | none => "embedded null byte"

/-- The files that can be seen, by their places: components from the working directory, from the one above
it behind two dots, or from the root of the system behind a slash. A directory is there when a file lies in
it, and it may be listed by itself. -/
structure Tree where
  files : List (List String × List UInt8) := []
  directories : List (List String) := []

namespace Tree

def content? (t : Tree) (place : List String) : Option (List UInt8) := t.files.lookup place

def hasFile (t : Tree) (place : List String) : Bool := (t.content? place).isSome

/-- The working directory, those above it and the root are always there. -/
def isStanding (place : List String) : Bool := place == ["/"] || place.all (· == "..")

def hasDirectory (t : Tree) (place : List String) : Bool :=
  isStanding place || t.directories.contains place ||
    t.files.any fun (name, _) => place.isPrefixOf name && name != place

/-- Puts a file in the place of one of the same name, or behind the others. -/
def put (place : List String) (content : List UInt8) (t : Tree) : Tree :=
  if t.hasFile place then
    { t with files := t.files.map fun (name, old) => if name == place then (name, content) else (name, old) }
  else { t with files := t.files ++ [(place, content)] }

/-- The directory above a place. -/
def above (place : List String) : List String :=
  if place == ["/"] then place
  else if isStanding place then place ++ [".."]
  else place.dropLast

/-- Follows components from a directory to the place that they name. The last one need not exist. -/
def follow (t : Tree) (here : List String) : List String → Except Refusal (List String)
  | [] => .ok here
  | part :: rest =>
    if part == ".." then follow t (above here) rest
    else
      let place := here ++ [part]
      if part.utf8ByteSize > 255 then .error .nameTooLong
      else if rest.isEmpty then .ok place
      else if t.hasDirectory place then follow t place rest
      else if t.hasFile place then .error .notDirectory
      else .error .missing

/-- The place where the components of a path start. -/
def start (p : Path) : List String := if p.root == "" then [] else ["/"]

def locate (t : Tree) (p : Path) : Except Refusal (List String) :=
  if p.text.toList.contains '\x00' then .error .nullCharacter
  else if p.text.utf8ByteSize > 4095 then .error .nameTooLong
  else t.follow (start p) p.parts

def read (t : Tree) (p : Path) : Except Refusal (List UInt8) := do
  let place ← t.locate p
  match t.content? place with
  | some content => .ok content
  | none => .error (if t.hasDirectory place then .directory else .missing)

def write (t : Tree) (p : Path) (content : List UInt8) : Except Refusal Tree := do
  let place ← t.locate p
  if t.hasDirectory place then throw .directory
  return t.put place content

/-- Whether a path names a file. A name that is too long is an error even here. -/
def isFile (t : Tree) (p : Path) : Except Refusal Bool :=
  match t.read p with
  | .ok _ => .ok true
  | .error .nameTooLong => .error .nameTooLong
  | .error _ => .ok false

end Tree

/-- Why a text cannot be read from a file. -/
inductive TextFault
  | refused (path : Path) (refusal : Refusal)
  | undecodable (fault : Text.Utf8.Fault)
  deriving DecidableEq, Repr

def TextFault.message : TextFault → String
  | refused path refusal => refusal.message path
  | undecodable fault => fault.message

def Tree.readText (t : Tree) (p : Path) : Except TextFault String := do
  let bytes ← (t.read p).mapError (.refused p)
  let chars ← (Text.Utf8.decode bytes).mapError .undecodable
  return .ofList (Text.unifyLineEnds chars)

end GormModels.Files
