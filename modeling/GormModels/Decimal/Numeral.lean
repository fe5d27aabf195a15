/-!
Decimal numerals: the number that digits with a power of ten stand for.
-/

namespace GormModels.Decimal

def digitsValue (digits : List Char) : Nat :=
  digits.foldl (fun n c => 10 * n + (c.toNat - 48)) 0

/-- The floating-point number nearest to `digits * 10 ^ scale`; scales far out of range are not computed. -/
def toFloat (digits : Nat) (scale : Int) : Float :=
  if digits = 0 then 0
  else
    let leading := scale + (Nat.toDigits 10 digits).length
    if leading > 400 then 1 / 0
    else if leading < -400 then 0
    else if scale < 0 then .ofScientific digits true (-scale).toNat
    else .ofScientific digits false scale.toNat

end GormModels.Decimal
