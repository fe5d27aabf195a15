import GormModels.Decimal.Numeral
import GormModels.Text.Blank
import GormModels.Text.Digit
import GormModels.Text.Hex
import GormModels.Text.Split
import GormModels.Value
import GormModels.Yaml.Fault

/-!
Plain scalars: which of them are written as something else than texts, and the values that they write.
-/

namespace GormModels.Yaml.Scalar

open Text

/-! ### Forms -/

def isBinary (c : Char) : Bool := c == '0' || c == '1' || c == '_'

def isOctal (c : Char) : Bool := '0' ≤ c && c ≤ '7' || c == '_'

def isDecimalPart (c : Char) : Bool := c.isDigit || c == '_'

def isHex (c : Char) : Bool := (hexValue? c).isSome || c == '_'

def unsigned : List Char → List Char
  | '+' :: rest => rest
  | '-' :: rest => rest
  | s => s

/-- One or two digits, the first of two at most five: minutes or seconds. -/
def isSixtieth : List Char → Bool
  | [d] => d.isDigit
  | [d, e] => '0' ≤ d && d ≤ '5' && e.isDigit
  | _ => false

/-- Digits that start with one of `first` and may be grouped. -/
def isGrouped (first : Char → Bool) : List Char → Bool
  | d :: rest => first d && rest.all isDecimalPart
  | [] => false

def isLeading (c : Char) : Bool := c.isDigit && c != '0'

/-- Numbers with base 2, 8, 10, 16 or 60. -/
def isInt (s : List Char) : Bool :=
  let u := unsigned s
  let based := match u with
    | '0' :: 'b' :: digits => !digits.isEmpty && digits.all isBinary
    | '0' :: 'x' :: digits => !digits.isEmpty && digits.all isHex
    | '0' :: digits => digits.all isOctal
    | _ => isGrouped isLeading u
  let sexagesimal := match split ':' u with
    | whole :: part :: parts => isGrouped isLeading whole && (part :: parts).all isSixtieth
    | _ => false
  based || sexagesimal

/-- An exponent, which has a sign, or none. -/
def isExponent : List Char → Bool
  | [] => true
  | e :: sign :: digits =>
    (e == 'e' || e == 'E') && (sign == '+' || sign == '-') && !digits.isEmpty && digits.all Char.isDigit
  | _ => false

def infinities : List (List Char) := [".inf".toList, ".Inf".toList, ".INF".toList]

def notNumbers : List (List Char) := [".nan".toList, ".NaN".toList, ".NAN".toList]

/-- Numbers with a point. One that starts with the point has no sign. -/
def isFloat (s : List Char) : Bool :=
  let u := unsigned s
  let (whole, fraction) := splitFirst '.' u
  let pointed := u.contains '.' && isGrouped Char.isDigit whole &&
    isExponent (fraction.dropWhile isDecimalPart)
  let (bare, rest) := (s.drop 1).span isDecimalPart
  let leadingPoint := s.head? == some '.' && isGrouped Char.isDigit bare && isExponent rest
  let sexagesimal := u.contains '.' && fraction.all isDecimalPart && match split ':' whole with
    | first :: part :: parts => isGrouped Char.isDigit first && (part :: parts).all isSixtieth
    | _ => false
  pointed || leadingPoint || sexagesimal || infinities.contains u || notNumbers.contains s

/-! ### Moments -/

/-- The parts of a date or a moment, as they are written. -/
structure MomentParts where
  year : List Char
  month : List Char
  day : List Char
  clock : Option (List Char × List Char × List Char) := none
  fraction : List Char := []
  /-- The sign, hours and minutes of a zone; universal time has neither hours nor minutes. -/
  zone : Option (Char × List Char × List Char) := none

/-- Between `least` and `most` digits, and what follows them. -/
def digits? (least most : Nat) (s : List Char) : Option (List Char × List Char) :=
  let found := (s.take most).takeWhile Char.isDigit
  if found.length < least then none else some (found, s.drop found.length)

def char? (c : Char) : List Char → Option (List Char)
  | d :: rest => if c == d then some rest else none
  | [] => none

def isTabOrSpace (c : Char) : Bool := c == ' ' || c == '\t'

/-- A zone up to the end of a text; none at all at its end. -/
def zone? (s : List Char) : Option (Option (Char × List Char × List Char)) :=
  if s.isEmpty then some none
  else match s.dropWhile isTabOrSpace with
    | ['Z'] => some (some ('Z', [], []))
    | sign :: rest =>
      if sign != '+' && sign != '-' then none
      else do
        let (hours, rest) ← digits? 1 2 rest
        if rest.isEmpty then return some (sign, hours, [])
        let (minutes, rest) ← digits? 2 2 (← char? ':' rest)
        if rest.isEmpty then some (some (sign, hours, minutes)) else none
    | [] => none

/-- What parts a date from a time: the letter T or blanks. -/
def timeMark? : List Char → Option (List Char)
  | [] => none
  | c :: rest =>
    if c == 'T' || c == 't' then some rest
    else if isTabOrSpace c then some (rest.dropWhile isTabOrSpace)
    else none

def momentParts? (s : List Char) : Option MomentParts := do
  let (year, s) ← digits? 4 4 s
  let (month, s) ← digits? 1 2 (← char? '-' s)
  let (day, s) ← digits? 1 2 (← char? '-' s)
  if s.isEmpty then return { year, month, day }
  let (hour, s) ← digits? 1 2 (← timeMark? s)
  let (minute, s) ← digits? 2 2 (← char? ':' s)
  let (second, s) ← digits? 2 2 (← char? ':' s)
  let (fraction, s) := match s with
    | '.' :: rest => (rest.takeWhile Char.isDigit, rest.dropWhile Char.isDigit)
    | _ => ([], s)
  let zone ← zone? s
  return { year, month, day, clock := some (hour, minute, second), fraction, zone }

/-- Dates and moments; month and day of a date alone have two digits each. -/
def isMoment (s : List Char) : Bool :=
  match momentParts? s with
  | some p => p.clock.isSome || p.month.length == 2 && p.day.length == 2
  | none => false

/-! ### Tags of plain scalars -/

def boolWords : List (String × Bool) :=
  [("yes", true), ("Yes", true), ("YES", true), ("no", false), ("No", false), ("NO", false),
    ("true", true), ("True", true), ("TRUE", true), ("false", false), ("False", false),
    ("FALSE", false), ("on", true), ("On", true), ("ON", true), ("off", false), ("Off", false),
    ("OFF", false)]

def nullWords : List String := ["", "~", "null", "Null", "NULL"]

/-- A text without the line end behind it, of which there may be one where no blanks are cut. -/
def withoutLineEnd (s : List Char) : List Char :=
  match s.reverse with
  | '\n' :: c :: rest => (c :: rest).reverse
  | _ => s

/-- The name of the tag that a plain scalar has. -/
def plainTag (text : String) : String :=
  let s := withoutLineEnd text.toList
  let text := String.ofList s
  if (boolWords.lookup text).isSome then "bool"
  else if isFloat s then "float"
  else if isInt s then "int"
  else if text == "<<" then "merge"
  else if nullWords.contains text then "null"
  else if isMoment s then "timestamp"
  else if text == "=" then "value"
  else "str"

/-! ### Values -/

def isNegative : List Char → Bool
  | '-' :: _ => true
  | _ => false

/-- Decimal digits of any script as those of ASCII. -/
def westernDigits (s : List Char) : List Char :=
  s.map fun c => if isDecimal c then .ofNat (48 + decimalValue c) else c

/-- Digits without the mark of their base. -/
def unmarked (base : Nat) (s : List Char) : List Char :=
  match s with
  | '0' :: mark :: rest =>
    if (base, mark.toLower) ∈ [(2, 'b'), (8, 'o'), (16, 'x')] then rest else s
  | _ => s

/-- The number that digits write in a base, behind an optional sign and a mark of the base, and within
blanks. -/
def number? (base : Nat) (s : List Char) : Option Int :=
  let t := westernDigits (trim s)
  let digits := unmarked base (unsigned t)
  let value (c : Char) : Option Nat := (hexValue? c).filter (· < base)
  if digits.isEmpty || base == 10 && digits.length > 4300 then none
  else do
    let n ← digits.foldlM (fun n c => (base * n + ·) <$> value c) 0
    return if isNegative t then -(n : Int) else n

/-- The value of parts of a number with base 60. -/
def sexagesimal? (parts : List (List Char)) : Option Int :=
  parts.foldlM (fun n part => (60 * n + ·) <$> number? 10 part) 0

def magnitude? (s : List Char) : Option Int :=
  match s with
  | ['0'] => some 0
  | '0' :: 'b' :: digits => number? 2 digits
  | '0' :: 'x' :: digits => number? 16 digits
  | '0' :: _ => number? 8 s
  | _ => if s.contains ':' then sexagesimal? (split ':' s) else number? 10 s

def readInt (text : String) : Except Misfit Int :=
  let s := text.toList.filter (· != '_')
  if s.isEmpty then .error .emptyNumber
  else if (unsigned s).isEmpty then .error .emptyNumber
  else match magnitude? (unsigned s) with
    | some n => .ok (if isNegative s then -n else n)
    | none => .error (.number text)

/-- Digits with a point and an exponent, or a word for a number, behind an optional sign and within
blanks. -/
def decimal? (s : List Char) : Option Float :=
  let t := westernDigits (trim s)
  let u := unsigned t
  let signed (x : Float) : Float := if isNegative t then -x else x
  if u == "inf".toList || u == "infinity".toList then some (signed (1 / 0))
  else if u == "nan".toList then some (0 / 0)
  else
    let (whole, rest) := u.span Char.isDigit
    let (fraction, rest) := match rest with
      | '.' :: rest => rest.span Char.isDigit
      | _ => ([], rest)
    if (whole ++ fraction).isEmpty then none
    else
      let value (exponent : Int) : Option Float :=
        some (signed (Decimal.toFloat (Decimal.digitsValue (whole ++ fraction)) (exponent - fraction.length)))
      match rest with
      | [] => value 0
      | 'e' :: digits =>
        if (unsigned digits).isEmpty || !(unsigned digits).all Char.isDigit then none
        else
          let n : Int := Decimal.digitsValue (unsigned digits)
          value (if isNegative digits then -n else n)
      | _ => none

/-- The value of parts of a number with base 60, the last of which counts first. -/
def sexagesimalFloat? (parts : List (List Char)) : Option Float := do
  let values ← parts.mapM decimal?
  let sum := values.reverse.foldl (fun (sum, base) x => (sum + x * base, base * 60)) ((0 : Float), (1 : Float))
  return sum.1

def readFloat (text : String) : Except Misfit Float :=
  let s := (text.toList.filter (· != '_')).map Char.toLower
  let u := unsigned s
  let value? : Option Float :=
    if u == ".inf".toList then some (1 / 0)
    else if u == ".nan".toList then some (0 / 0)
    else if u.contains ':' then sexagesimalFloat? (split ':' u)
    else decimal? u
  if s.isEmpty then .error .emptyNumber
  else match value? with
    | some x => .ok (if isNegative s then -x else x)
    | none => .error (.number text)

def readBool (text : String) : Except Misfit Bool :=
  let lower : String := .ofList (text.toList.map Char.toLower)
  match boolWords.lookup lower with
  | some b => .ok b
  | none => .error (.word text)

def natOf (digits : List Char) : Nat := Decimal.digitsValue digits

def isLeapYear (year : Nat) : Bool := year % 4 == 0 && (year % 100 != 0 || year % 400 == 0)

def daysIn (year month : Nat) : Nat :=
  if month == 2 then if isLeapYear year then 29 else 28
  else if month ∈ [4, 6, 9, 11] then 30
  else 31

def date? (p : MomentParts) : Option Date :=
  let year := natOf p.year
  let month := natOf p.month
  let day := natOf p.day
  if 1 ≤ year && 1 ≤ month && month ≤ 12 && 1 ≤ day && day ≤ daysIn year month then
    some ⟨year, month, day⟩
  else none

/-- The offset of a zone in minutes, less than a day. -/
def offset? : Char × List Char × List Char → Option Int
  | (sign, hours, minutes) =>
    let n := 60 * natOf hours + natOf minutes
    if n ≥ 24 * 60 then none else some (if sign == '-' then -(n : Int) else n)

def microseconds (fraction : List Char) : Nat :=
  let digits := fraction.take 6
  natOf (digits ++ List.replicate (6 - digits.length) '0')

/-- The value of a date or a moment that the calendar has. -/
def momentValue? (p : MomentParts) : Option Value := do
  let date ← date? p
  match p.clock with
  | none => return .date date
  | some (hour, minute, second) =>
    let offset ← match p.zone with
      | none => some none
      | some zone => (offset? zone).map some
    if natOf hour < 24 && natOf minute < 60 && natOf second < 60 then
      return .moment ⟨date, natOf hour, natOf minute, natOf second, microseconds p.fraction, offset⟩
    else none

def readMoment (text : String) : Except Misfit Value :=
  match momentParts? (withoutLineEnd text.toList) with
  | none => .error (.moment text)
  | some p => (momentValue? p).elim (.error (.calendar text)) .ok

end GormModels.Yaml.Scalar
