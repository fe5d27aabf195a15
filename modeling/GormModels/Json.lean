import GormModels.Decimal.Numeral
import GormModels.Json.Text
import GormModels.Text.Hex
import GormModels.Text.Surrogate
import GormModels.Value.Display

/-!
JSON texts. Reading keeps the order of members and says where and why it stops; writing is compact.
-/

namespace GormModels.Json

/-- Why a text is not JSON. -/
inductive Problem
  | value
  | extra
  | memberName
  | colon
  | comma
  | unterminated
  | control
  | escape
  | codePoint
  deriving DecidableEq, Repr

def Problem.message : Problem → String
  | value => "Expecting value"
  | extra => "Extra data"
  | memberName => "Expecting property name enclosed in double quotes"
  | colon => "Expecting ':' delimiter"
  | comma => "Expecting ',' delimiter"
  | unterminated => "Unterminated string starting at"
  | control => "Invalid control character at"
  | escape => "Invalid \\escape"
  | codePoint => "Invalid \\uXXXX escape"

/-- Why reading stops: at a problem, met with `unread` characters of the text behind it, or because a number is too
long, the nesting too deep, or no character stands for a half. -/
inductive Stop
  | malformed (problem : Problem) (unread : Nat)
  | beyondLimits
  deriving DecidableEq, Repr

def stop {α : Type} (problem : Problem) (s : List Char) : Except Stop α :=
  .error (.malformed problem s.length)

/-- How many digits whole numbers may have, unless a process allows more. -/
def maxDigits : Nat := 4300

/-- How deep lists and maps may lie in one another: each takes a call, of which a process is allowed a thousand, and
forty are open around the reading. -/
def maxDepth : Nat := 1000 - 40

def skipBlanks (s : List Char) : List Char :=
  s.dropWhile (· ∈ [' ', '\t', '\n', '\r'])

/-- The code unit that four hexadecimal digits write. -/
def codeUnit? (s : List Char) : Option Nat :=
  if s.length < 4 then none
  else Text.hexNumber? (s.take 4)

/-- The characters that a backslash and a letter stand for. -/
def escapes : List (Char × Char) :=
  [('"', '"'), ('\\', '\\'), ('/', '/'), ('b', '\x08'), ('f', '\x0c'), ('n', '\n'), ('r', '\r'),
    ('t', '\t')]

section

variable [Text.Halves]

/-- The character of a code unit, unless it is a half that none stands for. -/
def unitChar (unit : Nat) (rest : List Char) : Except Stop (Char × List Char) :=
  match Text.ofUnit? unit with
  | some c => .ok (c, rest)
  | none => .error .beyondLimits

/-- A character written by its code unit, or by two that form a pair, behind a backslash and the letter
u. -/
def codePoint (s : List Char) : Except Stop (Char × List Char) :=
  match codeUnit? s with
  | none => .error (.malformed .codePoint (s.length + 1))
  | some high =>
    let rest := s.drop 4
    if rest.isEmpty then .error (.malformed .codePoint (s.length + 1))
    else match Text.isHighHalf high, rest with
    | true, '\\' :: 'u' :: low =>
      match codeUnit? low with
      | some n =>
        if Text.isLowHalf n then .ok (Text.joinHalves high n, low.drop 4) else unitChar high rest
      | none =>
        if low.length ≤ 4 then unitChar high rest
        else .error (.malformed .codePoint (low.length + 1))
    | _, _ => unitChar high rest

/-- The content of a text up to its closing quotation mark, which started with `opening` characters
unread. -/
def text (fuel opening : Nat) (s : List Char) : Except Stop (List Char × List Char) :=
  match fuel with
  | 0 => .error (.malformed .unterminated opening)
  | fuel + 1 =>
    match s with
    | [] => .error (.malformed .unterminated opening)
    | '"' :: rest => .ok ([], rest)
    | ['\\'] => .error (.malformed .unterminated opening)
    | '\\' :: 'u' :: rest => do
      let (c, rest) ← codePoint rest
      let (cs, rest) ← text fuel opening rest
      return (c :: cs, rest)
    | '\\' :: c :: rest =>
      match escapes.lookup c with
      | some e => do
        let (cs, rest) ← text fuel opening rest
        return (e :: cs, rest)
      | none => stop .escape s
    | c :: rest =>
      if c.toNat < 32 then stop .control s
      else do
        let (cs, rest) ← text fuel opening rest
        return (c :: cs, rest)

def digits (s : List Char) : List Char × List Char := (s.takeWhile Char.isDigit, s.dropWhile Char.isDigit)

/-- The exponent at the start of a text, if there is one. -/
def exponent? (s : List Char) : Option (Int × List Char) :=
  match s with
  | e :: rest =>
    if e == 'e' || e == 'E' then
      let (negative, rest) := match rest with
        | '-' :: rest => (true, rest)
        | '+' :: rest => (false, rest)
        | _ => (false, rest)
      match digits rest with
      | ([], _) => none
      | (ds, rest) =>
        let n : Int := Decimal.digitsValue ds
        some (if negative then -n else n, rest)
    else none
  | [] => none

/-- The digits behind a point at the start of a text, if there are any. -/
def fraction? (s : List Char) : Option (List Char × List Char) :=
  match s with
  | '.' :: rest =>
    match digits rest with
    | ([], _) => none
    | found => some found
  | _ => none

/-- A number: one without fraction and exponent is whole. -/
def number? (s : List Char) : Option (Except Stop (Value × List Char)) :=
  let (negative, body) := match s with
    | '-' :: rest => (true, rest)
    | _ => (false, s)
  let whole? := match body with
    | '0' :: rest => some (['0'], rest)
    | _ => match digits body with
      | ([], _) => none
      | found => some found
  whole?.map fun (whole, rest) =>
    let (fraction, afterFraction) := (fraction? rest).getD ([], rest)
    let (exponent, afterExponent) := (exponent? afterFraction).getD (0, afterFraction)
    if afterExponent.length == rest.length then
      let n : Int := Decimal.digitsValue whole
      if maxDigits < whole.length then .error .beyondLimits
      else .ok (.int (if negative then -n else n), rest)
    else
      let x := Decimal.toFloat (Decimal.digitsValue (whole ++ fraction)) (exponent - fraction.length)
      .ok (.float (if negative then -x else x), afterExponent)

/-- The values that are written as words. -/
def words : List (String × Value) :=
  [("null", .null), ("true", .bool true), ("false", .bool false), ("NaN", .float (0 / 0)),
    ("Infinity", .float (1 / 0)), ("-Infinity", .float (-1 / 0))]

def word? (s : List Char) : Option (Value × List Char) :=
  words.findSome? fun (word, value) =>
    if word.toList.isPrefixOf s then some (value, s.drop word.length) else none

mutual

/-- A value, with room for `depth` lists and maps in one another. -/
def value (fuel depth : Nat) (s : List Char) : Except Stop (Value × List Char) :=
  match fuel with
  | 0 => stop .value s
  | fuel + 1 =>
    match s with
    | '"' :: rest => do
      let (content, rest) ← text (rest.length + 1) s.length rest
      return (.text (.ofList content), rest)
    | '[' :: rest =>
      if depth = 0 then .error .beyondLimits else
      match skipBlanks rest with
      | ']' :: rest => return (.list [], rest)
      | rest => do
        let (items, rest) ← items fuel (depth - 1) rest
        return (.list items, rest)
    | '\x7b' :: rest =>
      if depth = 0 then .error .beyondLimits else
      match skipBlanks rest with
      | '\x7d' :: rest => return (.map [], rest)
      | rest => do
        let (entries, rest) ← members fuel (depth - 1) [] rest
        return (.map entries, rest)
    | _ =>
      match word? s with
      | some found => return found
      | none =>
        match number? s with
        | some found => found
        | none => stop .value s

/-- The items of a list up to its closing bracket. -/
def items (fuel depth : Nat) (s : List Char) : Except Stop (List Value × List Char) :=
  match fuel with
  | 0 => stop .value s
  | fuel + 1 => do
    let (item, rest) ← value fuel depth s
    match skipBlanks rest with
    | ']' :: rest => return ([item], rest)
    | ',' :: rest =>
      let (more, rest) ← items fuel depth (skipBlanks rest)
      return (item :: more, rest)
    | rest => stop .comma rest

/-- The members of a map up to its closing brace, added to those before; of members with one name the
last counts. -/
def members (fuel depth : Nat) (before : List (Value × Value)) (s : List Char) :
    Except Stop (List (Value × Value) × List Char) :=
  match fuel with
  | 0 => stop .value s
  | fuel + 1 =>
    match s with
    | '"' :: rest => do
      let (name, rest) ← text (rest.length + 1) s.length rest
      match skipBlanks rest with
      | ':' :: rest =>
        let (member, rest) ← value fuel depth (skipBlanks rest)
        let entries := Value.insert (.text (.ofList name)) member before
        match skipBlanks rest with
        | '\x7d' :: rest => return (entries, rest)
        | ',' :: rest => members fuel depth entries (skipBlanks rest)
        | rest => stop .comma rest
      | rest => stop .colon rest
    | _ => stop .memberName s

end

/-- Why a text has no value: a problem with the number of characters before it, or its size. -/
inductive Failure
  | malformed (problem : Problem) (position : Nat)
  | beyondLimits
  deriving DecidableEq, Repr

/-- The value of a whole text. -/
def read (s : List Char) : Except Failure Value :=
  let result := do
    let (v, rest) ← value (2 * s.length + 2) maxDepth (skipBlanks s)
    match skipBlanks rest with
    | [] => return v
    | rest => stop .extra rest
  result.mapError fun
    | .malformed problem unread => .malformed problem (s.length - unread)
    | .beyondLimits => .beyondLimits

end

mutual

/-- The compact text of a value; what JSON has no form for is written as a text. -/
def write : Value → String
  | .null => "null"
  | .bool true => "true"
  | .bool false => "false"
  | .int i => toString i
  | .float x => if x.isNaN then "NaN" else if x.isInf then (if x < 0 then "-Infinity" else "Infinity")
      else Value.showFloat x
  | .text s => quote s
  | .list items => "[" ++ ",".intercalate (writeAll items) ++ "]"
  | .map entries => "\x7b" ++ ",".intercalate (writeEntries entries) ++ "\x7d"
  | v => quote v.display

def writeAll : List Value → List String
  | [] => []
  | v :: vs => write v :: writeAll vs

def writeEntries : List (Value × Value) → List String
  | [] => []
  | (k, v) :: rest => (quote k.display ++ ":" ++ write v) :: writeEntries rest

end

end GormModels.Json
