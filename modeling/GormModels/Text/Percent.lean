import GormModels.Text.Hex
import GormModels.Text.Split
import GormModels.Text.Utf8

/-!
Percent-encoded text and query strings.
-/

namespace GormModels.Text

/-- The bytes of an ASCII text in which a percent sign and two hexadecimal digits stand for one byte. -/
def percentBytes : List Char → List UInt8
  | '%' :: a :: b :: rest =>
    match hexValue? a, hexValue? b with
    | some m, some n => .ofNat (16 * m + n) :: percentBytes rest
    | _, _ => 37 :: percentBytes (a :: b :: rest)
  | c :: rest => .ofNat c.toNat :: percentBytes rest
  | [] => []
termination_by s => s.length

def isAscii (c : Char) : Bool := c.toNat < 128

/-- A text with its escapes read, run by run of ASCII characters. -/
def unescape (s : List Char) : List Char :=
  (s.splitBy fun a b => isAscii a == isAscii b).flatMap fun run =>
    if run.all isAscii then Utf8.decodeLossy (percentBytes run) else run

/-- A text in a query, where a plus sign stands for a blank. -/
def queryText (s : List Char) : String :=
  .ofList (unescape (s.map fun c => if c == '+' then ' ' else c))

/-- Sets a value: a name that is there keeps its place, a new one goes to the end. -/
def setValue (name value : String) : List (String × String) → List (String × String)
  | [] => [(name, value)]
  | (n, v) :: rest => if n == name then (name, value) :: rest else (n, v) :: setValue name value rest

/-- The values of a query by name; of several the last counts, and empty ones are dropped. -/
def queryValues (query : List Char) : List (String × String) :=
  (split '&' query).foldl (fun values part =>
    match part.dropWhile (· != '=') with
    | '=' :: c :: value =>
      setValue (queryText (part.takeWhile (· != '='))) (queryText (c :: value)) values
    | _ => values) []

end GormModels.Text
