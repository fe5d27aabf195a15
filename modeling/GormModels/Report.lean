import GormModels.Value.Display

/-!
Reports: what a failure tells its user. A report has a kind with a code of its own, a message, the
circumstances in the order in which they became known, and what the user may try.
-/

namespace GormModels

inductive ReportKind
  | general (code : Option String)
  | configuration
  | sql
  | schema
  | unsupportedType
  | namingCollision
  | inputSource
  | databaseConnection
  deriving DecidableEq, Repr

def ReportKind.code : ReportKind → Option String
  | general code => code
  | configuration => some "CONFIG_ERROR"
  | sql => some "SQL_SYNTAX_ERROR"
  | schema => some "SCHEMA_ERROR"
  | unsupportedType => some "UNSUPPORTED_TYPE"
  | namingCollision => some "NAMING_COLLISION"
  | inputSource => some "INPUT_SOURCE_ERROR"
  | databaseConnection => some "DATABASE_CONNECTION_ERROR"

/-- What a report suggests unless it has suggestions of its own. -/
def ReportKind.suggestions : ReportKind → List String
  | general _ => []
  | configuration =>
    ["Check the option spelling and value", "Valid null styles are 'sql' and 'ptr'",
      "Supply exactly one SQL source (literal SQL, file or database)"]
  | sql =>
    ["Check the statement near the reported position",
      "Only MySQL CREATE TABLE syntax is supported"]
  | schema =>
    ["Verify every key references a declared column",
      "Make sure each table declares at least one column"]
  | unsupportedType =>
    ["Check if the SQL type is supported", "Change the column to a supported MySQL type"]
  | namingCollision =>
    ["Rename one of the conflicting columns or tables",
      "Adjust the table/column prefix options"]
  | inputSource => ["Check the file path and permissions"]
  | databaseConnection =>
    ["Check database server is running", "Verify connection credentials",
      "Ensure the mysqlclient driver is installed"]

/-- The circumstances of a report: names with values, no name twice. -/
abbrev Context := List (String × Value)

namespace Context

/-- Sets a circumstance: one that is there keeps its place, a new one goes to the end. -/
def put (name : String) (value : Value) : Context → Context
  | [] => [(name, value)]
  | (n, v) :: rest => if n == name then (name, value) :: rest else (n, v) :: put name value rest

/-- Sets a circumstance unless its text is missing or empty. -/
def putText (name : String) (text : Option String) (context : Context) : Context :=
  match text with
  | none => context
  | some s => if s == "" then context else context.put name (.text s)

def putCount (name : String) (count : Option Int) (context : Context) : Context :=
  count.elim context fun n => context.put name (.int n)

end Context

structure Report where
  kind : ReportKind
  message : String
  context : Context := []
  suggestions : List String := kind.suggestions
  deriving Repr

/-- What a report is given beyond the circumstances of its kind. -/
structure Extras where
  context : Context := []
  suggestions : Option (List String) := none

/-- The given suggestions unless there are none, else those of the kind. -/
def Extras.suggestionsFor (e : Extras) (kind : ReportKind) : List String :=
  match e.suggestions with
  | some (s :: rest) => s :: rest
  | _ => kind.suggestions

namespace Report

def code (r : Report) : Option String := r.kind.code

/-- The text for a terminal. -/
def text (r : Report) : String :=
  let code := match r.code with
    | some c => if c == "" then [] else ["Error Code: " ++ c]
    | none => []
  let context :=
    if r.context.isEmpty then []
    else "Context:" :: r.context.map fun (name, value) => "  " ++ name ++ ": " ++ value.display
  let suggestions :=
    if r.suggestions.isEmpty then []
    else "Suggestions:" :: r.suggestions.map ("  • " ++ ·)
  "\n".intercalate (r.message :: code ++ context ++ suggestions)

/-- The circumstances as texts. -/
def contextTexts (r : Report) : List (String × String) :=
  r.context.map fun (name, value) => (name, value.display)

def configuration (message : String) (option : Option String := none) (value : Value := .null)
    (extras : Extras := {}) : Report :=
  let context := extras.context.putText "option" option
  { kind := .configuration
    message
    context := if value.isNull then context else context.put "value" value
    suggestions := extras.suggestionsFor .configuration }

def sql (message : String) (line column : Option Int := none) (near : Option String := none)
    (extras : Extras := {}) : Report :=
  { kind := .sql
    message
    context := ((extras.context.putCount "line" line).putCount "column" column).putText "near" near
    suggestions := extras.suggestionsFor .sql }

def schema (message : String) (table column : Option String := none) (extras : Extras := {}) :
    Report :=
  { kind := .schema
    message
    context := (extras.context.putText "table" table).putText "column" column
    suggestions := extras.suggestionsFor .schema }

def unsupportedType (message : String) (type table column : Option String := none)
    (extras : Extras := {}) : Report :=
  { kind := .unsupportedType
    message
    context :=
      ((extras.context.putText "table" table).putText "column" column).putText "sql_type" type
    suggestions := extras.suggestionsFor .unsupportedType }

def namingCollision (message : String) (name : Option String := none)
    (identifiers : List String := []) (table : Option String := none) (extras : Extras := {}) :
    Report :=
  let context := extras.context.putText "table" table
  let context :=
    if identifiers.isEmpty then context
    else context.put "identifiers" (.text (", ".intercalate identifiers))
  { kind := .namingCollision
    message
    context := context.putText "go_name" name
    suggestions := extras.suggestionsFor .namingCollision }

/-- A report on an input file; it has no suggestions where it is given none. -/
def inputSource (message : String) (path : Option String := none) (extras : Extras := {}) :
    Report :=
  { kind := .inputSource
    message
    context := extras.context.putText "path" path
    suggestions := extras.suggestions.getD ReportKind.inputSource.suggestions }

end Report

end GormModels
