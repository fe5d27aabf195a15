import GormModels.Decimal.Shortest
import GormModels.Text.Printable
import GormModels.Value

/-!
The text that shows a value to a reader. A text by itself is shown as it is; within a list or a map it
stands in quotes.
-/

namespace GormModels.Value

def padLeft (width : Nat) (s : String) : String :=
  .ofList (List.replicate (width - s.length) '0') ++ s

/-- Digits with a point before the last `places` of them, at least one digit before it. -/
def withPoint (digits : List Char) (places : Nat) : List Char :=
  let digits := List.replicate (places + 1 - digits.length) '0' ++ digits
  let whole := digits.take (digits.length - places)
  let fraction := digits.drop (digits.length - places)
  whole ++ '.' :: (if fraction.isEmpty then ['0'] else fraction)

/-- A positive number is written positionally from 0.0001 up to 10 ^ 16 and with an exponent of at least
two digits otherwise. -/
def showPositive (digits : Nat) (scale : Int) : String :=
  let ds := Nat.toDigits 10 digits
  let zeros := (ds.reverse.takeWhile (· == '0')).length
  let zeros := if zeros == ds.length then 0 else zeros
  let ds := ds.take (ds.length - zeros)
  let scale := scale + zeros
  let leading := scale + ds.length - 1
  if -4 ≤ leading ∧ leading < 16 then
    if scale ≥ 0 then .ofList (ds ++ List.replicate scale.toNat '0' ++ ['.', '0'])
    else .ofList (withPoint ds (-scale).toNat)
  else
    let fraction := if ds.length == 1 then [] else '.' :: ds.drop 1
    let sign := if leading < 0 then "-" else "+"
    String.ofList (ds.take 1 ++ fraction) ++ "e" ++ sign ++ padLeft 2 (toString leading.natAbs)

def showFloat (x : Float) : String :=
  if x.isNaN then "nan"
  else
    let bits := x.toBits.toNat
    let sign := if bits / Nat.pow 2 63 == 1 then "-" else ""
    let bits := bits % Nat.pow 2 63
    if x.isInf then sign ++ "inf"
    else if bits == 0 then sign ++ "0.0"
    else
      let (digits, scale) := (Decimal.Interval.ofBits bits).shortest
      sign ++ showPositive digits scale

def hexDigits (width n : Nat) : String :=
  padLeft width (.ofList (Nat.toDigits 16 n))

/-- A character within quotes. -/
def showChar (quote c : Char) : String :=
  if c == quote || c == '\\' then .ofList ['\\', c]
  else if c == '\n' then "\\n"
  else if c == '\r' then "\\r"
  else if c == '\t' then "\\t"
  else if Text.isPrintable c then .singleton c
  else if c.toNat < 0x100 then "\\x" ++ hexDigits 2 c.toNat
  else if c.toNat < 0x10000 then "\\u" ++ hexDigits 4 c.toNat
  else "\\U" ++ hexDigits 8 c.toNat

/-- A text in single quotes, or in double quotes when it holds single ones and no double ones. -/
def showText (s : String) : String :=
  let quote := if s.toList.contains '\'' && !s.toList.contains '"' then '"' else '\''
  .singleton quote ++ "".intercalate (s.toList.map (showChar quote)) ++ .singleton quote

def showBytes (bs : List UInt8) : String :=
  let chars := bs.map fun b => Char.ofNat b.toNat
  let quote := if chars.contains '\'' && !chars.contains '"' then '"' else '\''
  let showByte (c : Char) : String :=
    if c.toNat < 0x7f then showChar quote c else "\\x" ++ hexDigits 2 c.toNat
  "b" ++ .singleton quote ++ "".intercalate (chars.map showByte) ++ .singleton quote

def showDate (d : Date) : String :=
  padLeft 4 (toString d.year) ++ "-" ++ padLeft 2 (toString d.month) ++ "-" ++ padLeft 2 (toString d.day)

def showMoment (m : Moment) : String :=
  let fraction := if m.microsecond == 0 then "" else "." ++ padLeft 6 (toString m.microsecond)
  let zone := match m.offset with
    | none => ""
    | some o => (if o < 0 then "-" else "+") ++ padLeft 2 (toString (o.natAbs / 60)) ++ ":" ++
        padLeft 2 (toString (o.natAbs % 60))
  showDate m.date ++ " " ++ padLeft 2 (toString m.hour) ++ ":" ++ padLeft 2 (toString m.minute) ++ ":" ++
    padLeft 2 (toString m.second) ++ fraction ++ zone

def constructed (name : String) (args : List String) : String :=
  "datetime." ++ name ++ "(" ++ ", ".intercalate args ++ ")"

/-- A zone within another value, by its offset in minutes; a negative one counts on from the day before. -/
def innerZone (offset : Int) : String :=
  if offset == 0 then "datetime.timezone.utc"
  else
    let day := if offset < 0 then ["days=-1"] else []
    let seconds := (offset % (24 * 60)) * 60
    constructed "timezone" [constructed "timedelta" (day ++ ["seconds=" ++ toString seconds])]

def dateParts (d : Date) : List String := [toString d.year, toString d.month, toString d.day]

def innerMoment (m : Moment) : String :=
  let clock := [toString m.hour, toString m.minute]
  let fine :=
    if m.microsecond != 0 then [toString m.second, toString m.microsecond]
    else if m.second != 0 then [toString m.second]
    else []
  let zone := m.offset.toList.map fun o => "tzinfo=" ++ innerZone o
  constructed "datetime" (dateParts m.date ++ clock ++ fine ++ zone)

mutual

/-- A value as it stands within another. -/
def inner : Value → String
  | null => "None"
  | bool true => "True"
  | bool false => "False"
  | int i => toString i
  | float x => showFloat x
  | text s => showText s
  | bytes bs => showBytes bs
  | date d => constructed "date" (dateParts d)
  | moment m => innerMoment m
  | list items => "[" ++ ", ".intercalate (innerAll items) ++ "]"
  | set items =>
    if items.isEmpty then "set()" else "\x7b" ++ ", ".intercalate (innerAll items) ++ "\x7d"
  | pair a b => "(" ++ inner a ++ ", " ++ inner b ++ ")"
  | map entries => "\x7b" ++ ", ".intercalate (innerEntries entries) ++ "\x7d"
  | outerList => "[...]"
  | outerMap => "\x7b...\x7d"

def innerAll : List Value → List String
  | [] => []
  | v :: vs => inner v :: innerAll vs

def innerEntries : List (Value × Value) → List String
  | [] => []
  | (k, v) :: rest => (inner k ++ ": " ++ inner v) :: innerEntries rest

end

def display : Value → String
  | text s => s
  | date d => showDate d
  | moment m => showMoment m
  | v => inner v

end GormModels.Value
