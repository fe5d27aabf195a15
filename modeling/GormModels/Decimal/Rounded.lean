/-!
Decimal text of whole numbers in floating point: with a fixed count of places, with one digit before the
point and a power of ten, or in the shorter of the two.
-/

namespace GormModels.Decimal

/-- The whole number nearest to a quotient; of two equally near ones the even one. -/
def roundDiv (n d : Nat) : Nat :=
  let q := n / d
  match compare (2 * (n % d)) d with
  | .lt => q
  | .gt => q + 1
  | .eq => q + q % 2

/-- The floating-point number nearest to a whole number, which is whole itself; nothing beyond the greatest
one. -/
def nearestFloat? (n : Nat) : Option Nat :=
  let unit := Nat.pow 2 (n.log2 - 52)
  let rounded := roundDiv n unit * unit
  if rounded < Nat.pow 2 1024 then some rounded else none

/-- The first `count` digits of a number, rounded, and the power of ten that the first of them counts. -/
def leadingDigits (n count : Nat) : List Char × Nat :=
  let digits := Nat.toDigits 10 n
  if digits.length ≤ count then (digits ++ List.replicate (count - digits.length) '0', digits.length - 1)
  else
    let rounded := Nat.toDigits 10 (roundDiv n (Nat.pow 10 (digits.length - count)))
    (rounded.take count, digits.length - 1 + (rounded.length - count))

/-- Whether a point without digits behind it is written, and zeros at the end are kept. -/
structure Ending where
  pointed : Bool
  deriving DecidableEq, Repr

def Ending.fraction (e : Ending) (digits : List Char) : List Char :=
  if digits.isEmpty && !e.pointed then [] else '.' :: digits

/-- Places without the zeros at their end, which a pointed ending keeps. -/
def Ending.trim (e : Ending) (places : List Char) : List Char :=
  if e.pointed then places else (places.reverse.dropWhile (· == '0')).reverse

/-- A power of ten in two digits at least. -/
def powerText (letter : Char) (power : Nat) : List Char :=
  let digits := Nat.toDigits 10 power
  letter :: '+' :: List.replicate (2 - digits.length) '0' ++ digits

def fixed (e : Ending) (places n : Nat) : List Char :=
  Nat.toDigits 10 n ++ e.fraction (List.replicate places '0')

def scientific (e : Ending) (letter : Char) (places n : Nat) : List Char :=
  let (digits, power) := leadingDigits n (places + 1)
  digits.take 1 ++ e.fraction (digits.drop 1) ++ powerText letter power

/-- A number to `count` digits, with a power of ten where its integer part has more. -/
def general (e : Ending) (letter : Char) (count n : Nat) : List Char :=
  let count := max count 1
  let (digits, power) := leadingDigits n count
  if power < count then digits.take (power + 1) ++ e.fraction (e.trim (digits.drop (power + 1)))
  else digits.take 1 ++ e.fraction (e.trim (digits.drop 1)) ++ powerText letter power

end GormModels.Decimal
