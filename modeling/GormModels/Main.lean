import GormModels.Cli

/-!
The command. It looks at the files that its words name, runs, and does what the run has come to. There is no
client for a database here, and no server: an address to serve at is announced only.
-/

open GormModels

/-- A place and the directories on the way to it. -/
def placesOnWay (p : Files.Path) : List (List String) :=
  p.parts.foldl (fun places part =>
    let here := places.getLastD (Files.Tree.start p)
    places ++ [if part == ".." then Files.Tree.above here else here ++ [part]]) []

/-- The text of a place, as the system reads it. -/
def placeText (place : List String) : String :=
  match place with
  | "/" :: rest => "/" ++ "/".intercalate rest
  | _ => "/".intercalate place

/-- Adds to a tree what is found on the way to a path. -/
def lookAt (t : Files.Tree) (path : String) : IO Files.Tree :=
  (placesOnWay (.ofText path)).foldlM (fun t place => do
    try
      let bytes ← IO.FS.readBinFile (placeText place)
      return t.put place bytes.toList
    catch
      | .unsupportedOperation .. | .inappropriateType .. =>
        return { t with directories := t.directories ++ [place] }
      | _ => return t) t

/-- The paths that the words of a command line name. -/
def pathsOf (words : List String) : List String :=
  match Cli.Command.ofWords words with
  | .ok (.run a) => [a.config, a.inputFile, a.outputFile].filterMap id
  | _ => []

/-- Writes the files that a run has changed. -/
def writeChanges (before after : Files.Tree) : IO Unit :=
  after.files.forM fun (place, bytes) => do
    if before.content? place != some bytes then
      IO.FS.writeBinFile (placeText place) ⟨bytes.toArray⟩

def main (words : List String) : IO UInt32 := do
  let files ← (pathsOf words).foldlM lookAt {}
  let terminal ← (← IO.getStderr).isTty
  let world : Cli.World := { files, database := .failure "no database client", terminal }
  let r := Cli.run world words
  (← IO.getStderr).putStr r.log
  writeChanges files r.files
  (← IO.getStdout).putStr r.output
  match r.status with
  | .ok status => return .ofNat status
  | .error _ => return 1
