/-!
The shortest decimal digits that read back as a given floating-point number. A finite number stands for
an interval of reals, all of which round to it; of the decimal grids from coarse to fine, the first with
a point in that interval gives the digits, and of two such points the nearer.
-/

namespace GormModels.Decimal

/-- A positive finite number `mantissa * 2 ^ exponent` with the ends of its interval, in quarters of a
unit of the mantissa. The ends belong to the interval when the mantissa is even. -/
structure Interval where
  mantissa : Nat
  exponent : Int
  below : Nat
  deriving Repr

def Interval.low (i : Interval) : Nat := 4 * i.mantissa - i.below

def Interval.high (i : Interval) : Nat := 4 * i.mantissa + 2

/-- The interval of a positive finite number by its bits. -/
def Interval.ofBits (bits : Nat) : Interval :=
  let fraction : Nat := bits % Nat.pow 2 52
  let biased : Nat := bits / Nat.pow 2 52 % Nat.pow 2 11
  if biased = 0 then ⟨fraction, -1074, 2⟩
  else ⟨Nat.pow 2 52 + fraction, (biased : Int) - 1075, if fraction = 0 ∧ 1 < biased then 1 else 2⟩

/-- Compares `quarters` quarters of a unit of the mantissa with `digits * 10 ^ scale`. -/
def Interval.compare (i : Interval) (quarters digits : Nat) (scale : Int) : Ordering :=
  let shift := i.exponent - 2
  Ord.compare (quarters * Nat.pow 2 shift.toNat * Nat.pow 10 (-scale).toNat)
    (digits * Nat.pow 10 scale.toNat * Nat.pow 2 (-shift).toNat)

def Interval.holds (i : Interval) (digits : Nat) (scale : Int) : Bool :=
  let closed := i.mantissa % 2 == 0
  let low := i.compare i.low digits scale
  let high := i.compare i.high digits scale
  (low == .lt || (closed && low == .eq)) && (high == .gt || (closed && high == .eq))

/-- The integer part of the number in units of `10 ^ scale`. -/
def Interval.floor (i : Interval) (scale : Int) : Nat :=
  (i.mantissa * Nat.pow 2 i.exponent.toNat * Nat.pow 10 (-scale).toNat) /
    (Nat.pow 10 scale.toNat * Nat.pow 2 (-i.exponent).toNat)

/-- Whether the upper of the two neighbours of the number on a grid is the nearer one; a number halfway
between goes to the even one. -/
def Interval.upperNearer (i : Interval) (lower : Nat) (scale : Int) : Bool :=
  match i.compare (8 * i.mantissa) (2 * lower + 1) scale with
  | .gt => true
  | .lt => false
  | .eq => lower % 2 == 1

/-- The decimal exponent of the first digit: the greatest `e` with `10 ^ e` not above the number. -/
def Interval.leading (i : Interval) : Int :=
  if 0 < i.floor 0 then ((Nat.toDigits 10 (i.floor 0)).length : Int) - 1
  else
    let places := (List.range 330).find? fun (j : Nat) => 0 < i.floor (-((j : Int) + 1))
    places.elim 0 fun (j : Nat) => -((j : Int) + 1)

/-- The neighbour of the number on the grid of `count` digits that lies in its interval, if one does. -/
def Interval.onGrid (i : Interval) (count : Nat) : Option (Nat × Int) :=
  let scale := i.leading + 1 - count
  let lower := i.floor scale
  match i.holds lower scale, i.holds (lower + 1) scale with
  | true, true => some (if i.upperNearer lower scale then (lower + 1, scale) else (lower, scale))
  | true, false => some (lower, scale)
  | false, true => some (lower + 1, scale)
  | false, false => none

/-- The shortest digits and the power of ten that they count. Seventeen digits always suffice. -/
def Interval.shortest (i : Interval) : Nat × Int :=
  ((List.range 17).findSome? fun n => i.onGrid (n + 1)).getD (i.floor (i.leading - 16), i.leading - 16)

end GormModels.Decimal
