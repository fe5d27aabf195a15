import GormModels.Json
import GormModels.Options.Coercion
import GormModels.Web.Framework

/-!
Reading of requests for Go source: an SQL text with options. Flags may be written as words; whether the values fit
their options is checked later.
-/

namespace GormModels.Web

/-- What is wrong with a request. -/
inductive Flaw
  | missing
  | notObject
  | notText
  | notFlag
  | unclearFlag
  | notJson (problem : Json.Problem)
  deriving DecidableEq, Repr

def Flaw.code : Flaw → String
  | missing => "missing"
  | notObject => "model_attributes_type"
  | notText => "string_type"
  | notFlag => "bool_type"
  | unclearFlag => "bool_parsing"
  | notJson _ => "json_invalid"

def Flaw.message : Flaw → String
  | missing => "Field required"
  | notObject => "Input should be a valid dictionary or object to extract fields from"
  | notText => "Input should be a valid string"
  | notFlag => "Input should be a valid boolean"
  | unclearFlag => "Input should be a valid boolean, unable to interpret input"
  | notJson _ => "JSON decode error"

/-- A flaw with its place, by names and positions from the outside in, and what was found there. -/
structure Defect where
  flaw : Flaw
  place : List Value
  input : Value
  deriving Repr

/-- The value of a member of an object. -/
def member? (name : String) (members : List (Value × Value)) : Option Value :=
  (members.find? fun (key, _) => key.same (.text name)).map (·.2)

/-- What is given for a field under its names, of which the first goes before the others, with the name. Null gives
nothing. -/
def given? (names : List String) (members : List (Value × Value)) : Option (String × Value) :=
  (names.findSome? fun name => (member? name members).map (name, ·)).filter fun (_, v) => !v.isNull

/-- The flag of a value: a word is kept as it is, and numbers that stand for true or false are read. What is neither is
wrong in two ways. -/
def readFlag (place : List Value) (v : Value) : Except (List Defect) Flag :=
  match v with
  | .text s => .ok (.text s)
  | _ =>
    match Options.coerceFlag v with
    | .ok b => .ok (.bool b)
    | .error flaw =>
      let flaw := if flaw == .unclear then Flaw.unclearFlag else .notFlag
      .error [⟨flaw, place ++ [.text "bool"], v⟩, ⟨.notText, place ++ [.text "str"], v⟩]

def readText (place : List Value) (v : Value) : Except (List Defect) String :=
  match v with
  | .text s => .ok s
  | _ => .error [⟨.notText, place, v⟩]

/-- What a field is read as, if it is given. -/
def readField {α : Type} (read : List Value → Value → Except (List Defect) α) (place : List Value)
    (members : List (Value × Value)) (names : List String) : Except (List Defect) (Option α) :=
  match given? names members with
  | none => .ok none
  | some (name, v) => some <$> read (place ++ [.text name]) v

/-- What the next part of a request makes of what the parts before it have made, or the defects of all of them. -/
def part {α β : Type} (make : Except (List Defect) (α → β)) (a : Except (List Defect) α) :
    Except (List Defect) β :=
  match make, a with
  | .ok f, .ok a => .ok (f a)
  | .error ds, .ok _ => .error ds
  | .ok _, .error es => .error es
  | .error ds, .error es => .error (ds ++ es)

/-- Reads a request from a value, which stands at a place. Members that are no fields do not matter. -/
def CompileRequest.ofValue (place : List Value) (v : Value) : Except (List Defect) CompileRequest :=
  match v with
  | .map members =>
    let sql := match member? "sql" members with
      | none => .ok ""
      | some v => readText (place ++ [.text "sql"]) v
    let text (names : List String) := readField readText place members names
    let flag (names : List String) := readField readFlag place members names
    let named := part (part (part (part (.ok CompileRequest.mk) sql) (text ["col_prefix"])) (flag ["json", "json_tag"]))
      (text ["table_prefix"])
    let styled := part (part (part named (text ["package"])) (flag ["no_null"])) (text ["null_style"])
    part (part (part (part styled (flag ["gorm_type"])) (flag ["force_tablename"])) (text ["charset"]))
      (text ["collation"])
  | _ => .error [⟨.notObject, place, v⟩]

end GormModels.Web
