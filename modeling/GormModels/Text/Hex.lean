/-!
Hexadecimal digits.
-/

namespace GormModels.Text

def hexValue? (c : Char) : Option Nat :=
  if c.isDigit then some (c.toNat - 48)
  else if 'a' ≤ c ∧ c ≤ 'f' then some (c.toNat - 87)
  else if 'A' ≤ c ∧ c ≤ 'F' then some (c.toNat - 55)
  else none

/-- The number that a text of hexadecimal digits writes. -/
def hexNumber? (s : List Char) : Option Nat :=
  if s.isEmpty then none else s.foldlM (fun n c => (16 * n + ·) <$> hexValue? c) 0

end GormModels.Text
