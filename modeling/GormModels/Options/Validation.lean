import GormModels.Go.Package
import GormModels.Options
import GormModels.Report
import GormModels.Text.Blank
import GormModels.Text.Case

/-!
Options from values of unknown shape. Every value is checked, and a name that is not that of an option is wrong; the
report speaks of all that is wrong and shows the first.
-/

namespace GormModels

/-- What is wrong with the value of an option. -/
inductive Complaint
  /-- The value is not what the option is made of. -/
  | misfit (told : String)
  | nullStyle (shown : String)
  | package (shown : String)
  | unknown
  deriving DecidableEq, Repr

structure OptionProblem where
  option : String
  value : Value
  complaint : Complaint
  deriving Repr

/-- Problems with options, of which there is at least one. -/
structure OptionError where
  first : OptionProblem
  more : List OptionProblem
  deriving Repr

/-- What checks values against the options. Texts and flags are what they are; of another value it tells the flag or the
text that it stands for, or what is wrong with it. -/
class Validator where
  flag : Value → Except String Bool
  text : Value → Except String String
  /-- What is told of a value that a check of the options refuses with a text. -/
  refusal : String → String
  /-- What is told of an entry that no option takes. -/
  unknown : String
  /-- The order that problems are told in. -/
  arranged : OptionError → OptionError

section

variable [Validator]

def Complaint.message : Complaint → String
  | misfit told => told
  | nullStyle shown => Validator.refusal ("invalid null style: " ++ shown)
  | package shown => Validator.refusal ("'" ++ shown ++ "' is not a valid Go package name.")
  | unknown => Validator.unknown

def OptionError.report (e : OptionError) : Report :=
  let texts := (e.first :: e.more).map fun p => p.option ++ ": " ++ p.complaint.message
  .configuration ("Invalid options: " ++ "; ".intercalate texts) (some e.first.option) e.first.value

end

namespace Options

def trimText (s : String) : String := .ofList (Text.trim s.toList)

section

variable [Validator]

/-- A flag, of which nothing and an empty text mean that it is not set. -/
def readFlag (v : Value) : Except Complaint Bool :=
  match v with
  | .null | .text "" => .ok false
  | .bool b => .ok b
  | v => (Validator.flag v).mapError .misfit

def readText (v : Value) : Except Complaint String :=
  match v with
  | .text s => .ok s
  | v => (Validator.text v).mapError .misfit

/-- A text, of which nothing means an empty one. -/
def readPrefixes (v : Value) : Except Complaint String :=
  if v.isNull then .ok "" else readText v

/-- A text without blanks around it; an empty one means nothing. -/
def readName (v : Value) : Except Complaint (Option String) :=
  match v with
  | .null => .ok none
  | .text s => .ok (if trimText s == "" then none else some (trimText s))
  | v => some <$> readText v

/-- The spellings of the null styles. -/
def nullStyles : List (String × NullStyle) :=
  [("", .byType), ("none", .byType), ("sql", .wrapped), ("wrapped", .wrapped), ("ptr", .pointer),
    ("pointer", .pointer)]

def readNullStyle (v : Value) : Except Complaint NullStyle :=
  match v with
  | .null => .ok .byType
  | .text s =>
    match nullStyles.lookup (Text.lowerText (trimText s)) with
    | some style => .ok style
    | none => .error (.nullStyle s)
  | v => .error (.nullStyle v.inner)

/-- A package name without blanks around it; an empty one means the default. -/
def readPackage (v : Value) : Except Complaint String :=
  match v with
  | .null => .ok "model"
  | .text s =>
    let name := trimText s
    if name == "" then .ok "model"
    else if Go.isPackageName name then .ok name
    else .error (.package s)
  | v => .error (.package v.display)

/-- How one option takes its value. -/
structure Setter where
  option : String
  set : Options → Value → Except Complaint Options

def setters : List Setter := [
  ⟨"charset", fun o v => do return { o with charset := ← readName v }⟩,
  ⟨"collation", fun o v => do return { o with collation := ← readName v }⟩,
  ⟨"json_tag", fun o v => do return { o with jsonTag := ← readFlag v }⟩,
  ⟨"table_prefix", fun o v => do return { o with tablePrefixes := ← readPrefixes v }⟩,
  ⟨"column_prefix", fun o v => do return { o with columnPrefixes := ← readPrefixes v }⟩,
  ⟨"no_null_type", fun o v => do return { o with noNullType := ← readFlag v }⟩,
  ⟨"null_style", fun o v => do return { o with nullStyle := ← readNullStyle v }⟩,
  ⟨"package", fun o v => do return { o with package := ← readPackage v }⟩,
  ⟨"with_type", fun o v => do return { o with withType := ← readFlag v }⟩,
  ⟨"force_table_name", fun o v => do return { o with forceTableName := ← readFlag v }⟩]

/-- Sets one option from the entries, or adds what is wrong with its value. -/
def applySetter (entries : List (String × Value)) (state : Options × List OptionProblem) (s : Setter) :
    Options × List OptionProblem :=
  match entries.lookup s.option with
  | none => state
  | some v =>
    match s.set state.1 v with
    | .ok o => (o, state.2)
    | .error complaint => (state.1, state.2 ++ [⟨s.option, v, complaint⟩])

/-- The entries that no option takes. -/
def unknownEntries (entries : List (String × Value)) : List OptionProblem :=
  (entries.filter fun (name, _) => !setters.any (·.option == name)).map fun (name, v) =>
    ⟨name, v, .unknown⟩

/-- The options that entries set, each name of which occurs once. -/
def ofEntries (entries : List (String × Value)) : Except OptionError Options :=
  let (options, problems) := setters.foldl (applySetter entries) ({}, [])
  match problems ++ unknownEntries entries with
  | [] => .ok options
  | first :: more => .error (Validator.arranged ⟨first, more⟩)

end

end Options

end GormModels
