import GormModels.Compile

/-!
What stands between the application and those who ask it. It hands requests over, with their bodies read, answers some
itself, and sends responses.
-/

namespace GormModels.Web

structure Request where
  method : String
  path : String
  contentType : String := "application/json"
  /-- The text of the body. A half of a surrogate pair in it is one that bytes write by itself. -/
  body : String := ""
  deriving DecidableEq, Repr

inductive Content
  | page (text : String)
  | data (value : Value)
  deriving Repr

def Content.type : Content → String
  | page _ => "text/html; charset=utf-8"
  | data _ => "application/json"

structure Response where
  status : Nat
  content : Content
  deriving Repr

/-- Why a request has no answer: no report covers its failure, or what would be told of it has no form in JSON. -/
inductive Failure
  | unreported (e : CompileError)
  | notNumber
  | loneHalf
  deriving Repr

mutual

/-- Whether a number in a value is none that JSON can write. -/
def hasOddNumber : Value → Bool
  | .float x => x.isNaN || x.isInf
  | .list items => anyOddNumber items
  | .map entries => anyOddEntry entries
  | _ => false

def anyOddNumber : List Value → Bool
  | [] => false
  | v :: vs => hasOddNumber v || anyOddNumber vs

def anyOddEntry : List (Value × Value) → Bool
  | [] => false
  | (_, v) :: rest => hasOddNumber v || anyOddEntry rest

end

/-- A flag of a request, which a word may tell. -/
inductive Flag
  | bool (on : Bool)
  | text (word : String)
  deriving DecidableEq, Repr

def Flag.value : Flag → Value
  | bool on => .bool on
  | text word => .text word

/-- A request for Go source: an SQL text, and what is given for the options. -/
structure CompileRequest where
  sql : String := ""
  columnPrefixes : Option String := none
  json : Option Flag := none
  tablePrefixes : Option String := none
  package : Option String := none
  noNull : Option Flag := none
  nullStyle : Option String := none
  withType : Option Flag := none
  forceTableName : Option Flag := none
  charset : Option String := none
  collation : Option String := none
  deriving DecidableEq, Repr

namespace CompileRequest

/-- The options that a request may set, with what it gives for them. -/
def table (t : CompileRequest) : List (String × Option Value) := [
  ("column_prefix", t.columnPrefixes.map .text), ("json_tag", t.json.map Flag.value),
  ("table_prefix", t.tablePrefixes.map .text), ("package", t.package.map .text),
  ("no_null_type", t.noNull.map Flag.value), ("null_style", t.nullStyle.map .text),
  ("with_type", t.withType.map Flag.value), ("force_table_name", t.forceTableName.map Flag.value),
  ("charset", t.charset.map .text), ("collation", t.collation.map .text)]

/-- The option entries that a request gives. -/
def entries (t : CompileRequest) : List (String × Value) :=
  t.table.filterMap fun (option, value) => value.map (option, ·)

end CompileRequest

/-- What a request is handed over as, unless it is answered already. -/
inductive Call
  | page
  | health
  | compile (request : CompileRequest)
  | answered (response : Response)

class Framework where
  receive : Request → Call
  /-- Sends a response, if its content can be written. -/
  send : Response → Except Failure Response

/-- An object with texts as names. -/
def object (members : List (String × Value)) : Value :=
  .map (members.map fun (name, v) => (.text name, v))

end GormModels.Web
