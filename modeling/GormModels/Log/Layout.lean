import GormModels.Decimal.Rounded
import GormModels.Text.Digit
import GormModels.Value.Display

/-!
Layouts of log lines: texts with fields in them, such as `%(message)s`, each with the way to write it.
-/

namespace GormModels.Log

/-- A message of some severity, from a named logger. -/
structure Record where
  logger : String
  level : Int
  message : String
  deriving DecidableEq, Repr

def levelName (level : Int) : String :=
  match level with
  | 0 => "NOTSET"
  | 10 => "DEBUG"
  | 20 => "INFO"
  | 30 => "WARNING"
  | 40 => "ERROR"
  | 50 => "CRITICAL"
  | level => "Level " ++ toString level

/-- A count in a form: a number, or the value in turn. -/
inductive Count
  | number (n : Nat)
  | value
  deriving DecidableEq, Repr

/-- How a field is written; a form that breaks off has no conversion. -/
structure Form where
  left : Bool := false
  signed : Bool := false
  spaced : Bool := false
  marked : Bool := false
  zeros : Bool := false
  width : Count := .number 0
  places : Option Count := none
  conversion : Option Char := none
  deriving DecidableEq, Repr

/-- What a layout consists of. A field without a name takes what an earlier one left. -/
inductive Piece
  | literal (c : Char)
  | field (name : Option String) (form : Form)
  | openName
  deriving DecidableEq, Repr

inductive LayoutFault
  /-- A layout has one field at least. -/
  | noField
  | incomplete
  | conversion (c : Char)
  | unknownField (name : String)
  /-- A conversion without a value for it. -/
  | noValue
  | notNumber
  /-- A number in a form has too many digits. -/
  | longForm
  /-- A number is beyond the floating-point numbers, the code points or the counts. -/
  | outOfRange
  deriving DecidableEq, Repr

/-! ### Reading layouts -/

def flags : List Char := ['#', '0', '+', ' ', '-']

/-- The letters of the conversions. -/
def conversions : List Char := "diouxefgcrsa%".toList

/-- A count, in digits or as a star; nothing is left out of it. -/
def skipCount (s : List Char) : List Char :=
  match s with
  | '*' :: rest => rest
  | _ => s.dropWhile Text.isDecimal

/-- Whether a well-formed field starts here, behind the percent sign. -/
def startsField : List Char → Bool
  | '(' :: s =>
    let (name, s) := s.span Text.isWordChar
    match s with
    | ')' :: s =>
      let s := skipCount (s.dropWhile flags.contains)
      let s := match s with
        | '.' :: rest => if (skipCount rest).length < rest.length then skipCount rest else s
        | _ => s
      !name.isEmpty && (s.head?.any fun c => conversions.contains c.toLower)
    | _ => false
  | _ => false

def hasField : List Char → Bool
  | '%' :: s => startsField s || hasField s
  | _ :: s => hasField s
  | [] => false

/-- The name of a field up to the bracket that closes it, with `depth` brackets open in it. -/
def fieldName (depth : Nat) : List Char → Option (List Char × List Char)
  | [] => none
  | ')' :: s =>
    if depth = 0 then some ([], s) else (fieldName (depth - 1) s).map fun (name, s) => (')' :: name, s)
  | '(' :: s => (fieldName (depth + 1) s).map fun (name, s) => ('(' :: name, s)
  | c :: s => (fieldName depth s).map fun (name, s) => (c :: name, s)

def readNumber (s : List Char) : Option Nat × List Char :=
  let digits := s.takeWhile Char.isDigit
  (Text.decimalNumber? digits, s.dropWhile Char.isDigit)

/-- A count in a form, in digits or as a star. -/
def readCount (s : List Char) : Count × List Char :=
  match s with
  | '*' :: rest => (.value, rest)
  | _ => let (n, rest) := readNumber s; (.number (n.getD 0), rest)

/-- The form of a field, behind its name. -/
def readForm (s : List Char) : Form × List Char :=
  let set := s.takeWhile flags.contains
  let (width, s) := readCount (s.dropWhile flags.contains)
  let (places, s) := match s with
    | '.' :: rest => let (n, rest) := readCount rest; (some n, rest)
    | _ => (none, s)
  let s := match s with
    | c :: rest => if c ∈ ['h', 'l', 'L'] then rest else s
    | [] => s
  ({ left := set.contains '-', signed := set.contains '+', spaced := set.contains ' ',
     marked := set.contains '#', zeros := set.contains '0', width, places,
     conversion := s.head? }, s.drop 1)

/-- The pieces of a layout shorter than `fuel`; a doubled percent sign stands for one. -/
def piecesOf (fuel : Nat) (s : List Char) : List Piece :=
  match fuel, s with
  | 0, _ => []
  | _, [] => []
  | fuel + 1, '%' :: '%' :: s => .literal '%' :: piecesOf fuel s
  | fuel + 1, '%' :: '(' :: s =>
    match fieldName 0 s with
    | none => [.openName]
    | some (name, s) =>
      let (form, s) := readForm s
      .field (some (.ofList name)) form :: piecesOf fuel s
  | fuel + 1, '%' :: s =>
    let (form, s) := readForm s
    .field none form :: piecesOf fuel s
  | fuel + 1, c :: s => .literal c :: piecesOf fuel s

/-! ### Filling layouts -/

/-- What a record has under a name; what is the same for all records is among it. -/
def Record.field? (r : Record) (name : String) : Option Value :=
  match name with
  | "name" => some (.text r.logger)
  | "levelname" => some (.text (levelName r.level))
  | "levelno" => some (.int r.level)
  | "message" | "msg" => some (.text r.message)
  | "exc_info" | "exc_text" | "stack_info" | "funcName" => some .null
  | "threadName" => some (.text "MainThread")
  | "processName" => some (.text "MainProcess")
  | _ => none

/-- A form with its counts known. -/
structure Shape where
  form : Form
  width : Nat
  places : Option Nat

namespace Shape

/-- Fills a text up to the width. -/
def pad (f : Shape) (s : List Char) : List Char :=
  let blanks := List.replicate (f.width - s.length) ' '
  if f.form.left then s ++ blanks else blanks ++ s

/-- A text cut to the places and filled up to the width. -/
def text (f : Shape) (s : String) : List Char := f.pad (f.places.elim s.toList s.toList.take)

/-- A number with its sign, filled up to the width; `mark` stands before the digits. -/
def number (f : Shape) (negative : Bool) (mark digits : List Char) : List Char :=
  let sign := if negative then ['-'] else if f.form.signed then ['+']
    else if f.form.spaced then [' '] else []
  let missing := f.width - (sign.length + mark.length + digits.length)
  if f.form.zeros && !f.form.left then sign ++ mark ++ List.replicate missing '0' ++ digits
  else f.pad (sign ++ mark ++ digits)

/-- A whole number in a base, its places filled with zeros. -/
def whole (f : Shape) (base : Nat) (mark : String) (n : Int) : List Char :=
  let digits := Nat.toDigits base n.natAbs
  f.number (n < 0) (if f.form.marked then mark.toList else [])
    (List.replicate (f.places.getD 0 - digits.length) '0' ++ digits)

/-- A number in floating point, with six places or digits where the form tells no count. -/
def float (f : Shape) (write : Decimal.Ending → Nat → Nat → List Char) (n : Int) :
    Except LayoutFault (List Char) :=
  match Decimal.nearestFloat? n.natAbs with
  | some m => .ok (f.number (n < 0) [] (write ⟨f.form.marked⟩ (f.places.getD 6) m))
  | none => .error .outOfRange

end Shape

def ofInt : Value → Except LayoutFault Int
  | .int n => .ok n
  | _ => .error .notNumber

/-- One more than the greatest number of sixty-four bits with a sign. -/
def longLimit : Nat := 0x8000000000000000

/-- One more than the greatest number of thirty-two bits with a sign. -/
def shortLimit : Nat := 0x80000000

/-- The character of a code point, or of a text of one. -/
def charOf : Value → Except LayoutFault Char
  | .text s =>
    match s.toList with
    | [c] => .ok c
    | _ => .error .notNumber
  | .int n =>
    if n < -(longLimit : Int) ∨ (longLimit : Int) ≤ n then .error .notNumber
    else if 0 ≤ n ∧ n < 0x110000 then .ok (.ofNat n.toNat)
    else .error .outOfRange
  | _ => .error .notNumber

/-- A character in ASCII, any other by its code point. -/
def asciiChar (c : Char) : String :=
  if c.toNat < 128 then .singleton c
  else if c.toNat < 0x100 then "\\x" ++ Value.hexDigits 2 c.toNat
  else if c.toNat < 0x10000 then "\\u" ++ Value.hexDigits 4 c.toNat
  else "\\U" ++ Value.hexDigits 8 c.toNat

/-- Writes a value by a conversion. -/
def Shape.write (f : Shape) (conversion : Char) (v : Value) : Except LayoutFault (List Char) :=
  match conversion with
  | 's' => .ok (f.text v.display)
  | 'r' => .ok (f.text v.inner)
  | 'a' => .ok (f.text ("".intercalate (v.inner.toList.map asciiChar)))
  | 'd' | 'i' | 'u' => (ofInt v).map (f.whole 10 "")
  | 'o' => (ofInt v).map (f.whole 8 "0o")
  | 'x' => (ofInt v).map (f.whole 16 "0x")
  | 'X' => (ofInt v).map fun n => (f.whole 16 "0x" n).map Char.toUpper
  | 'c' => (charOf v).map fun c => f.pad [c]
  | 'f' | 'F' => do f.float Decimal.fixed (← ofInt v)
  | 'e' | 'E' => do f.float (Decimal.scientific · conversion) (← ofInt v)
  | 'g' => do f.float (Decimal.general · 'e') (← ofInt v)
  | 'G' => do f.float (Decimal.general · 'E') (← ofInt v)
  | c => .error (.conversion c)

/-- What the next conversion takes: the record as a whole, a field of it, or nothing any more. -/
inductive Supply
  | record
  | value (v : Value)
  | none

/-- The value in turn as a count, below the limits that counts have. -/
def Supply.count (limit : Nat) : Supply → Except LayoutFault Int
  | value (.int n) => if n.natAbs < limit then .ok n else .error .outOfRange
  | _ => .error .notNumber

/-- The text of a field, and what it leaves to the next one. The value of a field is used up by the first
count or conversion that takes it. -/
def fillField (supply : Supply) (form : Form) : Except LayoutFault (List Char × Supply) := do
  let (width, supply) ← match form.width with
    | .number n => if n < longLimit then pure ((n : Int), supply) else throw .longForm
    | .value => pure ((← supply.count longLimit), Supply.none)
  let (places, supply) ← match form.places with
    | none => pure (none, supply)
    | some (.number n) => if n < shortLimit then pure (some n, supply) else throw .longForm
    | some .value => pure (some (← supply.count shortLimit).toNat, Supply.none)
  match form.conversion, supply with
  | none, _ => throw .incomplete
  | some c, .value v =>
    let shape : Shape := ⟨{ form with left := form.left || width < 0 }, width.natAbs, places⟩
    return (← shape.write c v, .none)
  | some c, .record => if "diouxXeEfFgGcrsa".contains c then throw .noValue else throw (.conversion c)
  | some _, .none => throw .noValue

/-- The text of pieces, one after the other. -/
def fillPieces (r : Record) : Supply → List Piece → Except LayoutFault (List Char)
  | _, [] => .ok []
  | supply, .literal c :: rest => (fillPieces r supply rest).map (c :: ·)
  | _, .openName :: _ => .error .incomplete
  | supply, .field name form :: rest => do
    let supply ← match name with
      | none => pure supply
      | some name =>
        match r.field? name with
        | some v => pure (Supply.value v)
        | none => throw (.unknownField name)
    let (text, supply) ← fillField supply form
    return text ++ (← fillPieces r supply rest)

/-- A layout with the fields of a record in their places. -/
def fill (layout : String) (r : Record) : Except LayoutFault String := do
  let s := layout.toList
  if !hasField s then throw .noField
  return .ofList (← fillPieces r .record (piecesOf (s.length + 1) s))

end GormModels.Log
