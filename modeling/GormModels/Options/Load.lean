import GormModels.Files
import GormModels.Options.Validation
import GormModels.Yaml.Loader

/-!
The options of a run: those of a configuration file, and over them those of the command line.
-/

namespace GormModels

inductive LoadError
  | notFound (path : String)
  | refused (path : String) (refusal : Files.Refusal)
  | undecodable (fault : Text.Utf8.Fault)
  | yaml (path : String) (failure : Yaml.Failure)
  | notMapping (path : String)
  /-- An entry whose name is not a text. -/
  | entryName (name : Value)
  | options (error : OptionError)
  deriving Repr

namespace LoadError

def ofFailure (path : String) : Yaml.Failure → LoadError
  | .undecodable fault => undecodable fault
  | failure => yaml path failure

def report? [Validator] : LoadError → Option Report
  | notFound path =>
    some (.configuration ("Config file not found: " ++ path) (some "config") (.text path))
  | yaml path (.malformed text) =>
    some (.configuration ("Error parsing YAML file " ++ path ++ ": " ++ text) (some "config"))
  | notMapping path =>
    some (.configuration ("Content in config file " ++ path ++ " is not a mapping.") (some "config"))
  | options error => some error.report
  | refused .. | undecodable _ | yaml .. | entryName _ => none

end LoadError

namespace Options

/-- Entries with one of them set: one that is there keeps its place, a new one goes to the end. -/
def override (name : String) (value : Value) (entries : List (Value × Value)) : List (Value × Value) :=
  Value.insert (.text name) value entries

/-- The entries of a configuration file. An empty one, or one with nothing but a false value, has none. -/
def fileEntries [Yaml.Loader] (files : Files.Tree) (path : String) : Except LoadError (List (Value × Value)) := do
  let place := Files.Path.ofText path
  let found ← (files.isFile place).mapError (.refused path)
  if !found then throw (.notFound path)
  let bytes ← (files.read place).mapError (.refused path)
  match ← (Yaml.Loader.load place.text bytes).mapError (.ofFailure path) with
  | .map entries => return entries
  | v => if v.isTruthy then throw (.notMapping path) else return []

/-- Entries under texts as their names. -/
def namedEntries (entries : List (Value × Value)) : Except LoadError (List (String × Value)) :=
  entries.mapM fun (name, value) =>
    match name with
    | .text s => .ok (s, value)
    | _ => .error (.entryName name)

/-- The options of a file and of the command line, which gives its values by the names of options. An
empty path is as good as none. -/
def load [Yaml.Loader] [Validator] (files : Files.Tree) (path : Option String) (given : List (String × Value)) :
    Except LoadError Options := do
  let stored ← match path.filter (· != "") with
    | some path => fileEntries files path
    | none => .ok []
  let entries := given.foldl (fun entries (name, value) => override name value entries) stored
  (ofEntries (← namedEntries entries)).mapError .options

end Options

end GormModels
