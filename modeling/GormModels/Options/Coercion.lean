import GormModels.Options.Validation

/-!
Coercion of values: a flag may be written as a word or a number, and bytes may stand for a text. The problems are told
in the order of the options, with unknown names behind them.
-/

namespace GormModels

namespace Options

/-- Why a value is no flag: it is of another kind, or of one that is read as a flag but not this time. -/
inductive FlagFlaw
  | kind
  | unclear
  deriving DecidableEq, Repr

def FlagFlaw.message : FlagFlaw → String
  | kind => "Input should be a valid boolean"
  | unclear => "Input should be a valid boolean, unable to interpret input"

def falseWords : List String := ["0", "off", "f", "false", "n", "no"]

def trueWords : List String := ["1", "on", "t", "true", "y", "yes"]

/-- The ASCII letters of a text in lower case. -/
def asciiLower (s : String) : String := .ofList (s.toList.map Char.toLower)

/-- A word for true or false, in any case. -/
def ofWord (s : String) : Except FlagFlaw Bool :=
  if asciiLower s ∈ falseWords then .ok false
  else if asciiLower s ∈ trueWords then .ok true
  else .error .unclear

def textOfBytes? (bs : List UInt8) : Option String := String.fromUTF8? ⟨bs.toArray⟩

/-- The least number that is beyond the integers of machines, whose values are read as numbers. -/
def wordLimit : Int := 0x8000000000000000

def coerceFlag (v : Value) : Except FlagFlaw Bool :=
  match v with
  | .bool b => .ok b
  | .text s => ofWord s
  | .int i =>
    if i = 0 then .ok false
    else if i = 1 then .ok true
    else if -wordLimit ≤ i ∧ i < wordLimit then .error .unclear
    else .error .kind
  | .float x =>
    let limit := Float.ofInt wordLimit
    if x == 0 then .ok false
    else if x == 1 then .ok true
    else if -limit < x && x < limit && x == x.floor then .error .unclear
    else .error .kind
  | .bytes bs =>
    match textOfBytes? bs with
    | some s => ofWord s
    | none => .error .unclear
  | _ => .error .kind

def coerceText (v : Value) : Except String String :=
  match v with
  | .text s => .ok s
  | .bytes bs =>
    match textOfBytes? bs with
    | some s => .ok s
    | none => .error "Input should be a valid string, unable to parse raw data as a unicode string"
  | _ => .error "Input should be a valid string"

end Options

instance : Validator where
  flag v := (Options.coerceFlag v).mapError Options.FlagFlaw.message
  text := Options.coerceText
  refusal told := "Value error, " ++ told
  unknown := "Extra inputs are not permitted"
  arranged e := e

end GormModels
