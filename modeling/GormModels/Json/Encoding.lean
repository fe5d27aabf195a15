import GormModels.Text.Surrogate
import GormModels.Text.Utf8

/-!
The text of JSON bytes. As it starts with two characters of ASCII, the zeros among the first bytes tell the
width of the code units and the order of their bytes.
-/

namespace GormModels.Json

/-- The numbers that groups of `width` bytes write, the first byte counting most or least; nothing if bytes
are left. -/
def numbers? (width : Nat) (bigEndian : Bool) (fuel : Nat) (bytes : List UInt8) : Option (List Nat) :=
  match fuel with
  | 0 => some []
  | fuel + 1 =>
    if bytes.isEmpty then some []
    else if bytes.length < width then none
    else
      let group := if bigEndian then bytes.take width else (bytes.take width).reverse
      let n := group.foldl (fun n b => 256 * n + b.toNat) 0
      (numbers? width bigEndian fuel (bytes.drop width)).map (n :: ·)

variable [Text.Halves]

def ofUnits16? (bigEndian : Bool) (bytes : List UInt8) : Option (List Char) :=
  numbers? 2 bigEndian bytes.length bytes >>= Text.ofUnits?

def ofUnits32? (bigEndian : Bool) (bytes : List UInt8) : Option (List Char) := do
  let codes ← numbers? 4 bigEndian bytes.length bytes
  if codes.all (· < 0x110000) then codes.mapM Text.ofUnit? else none

/-- The text that bytes write, without the mark of their order. -/
def decode? (bytes : List UInt8) : Option (List Char) :=
  match bytes with
  | 0xEF :: 0xBB :: 0xBF :: rest => (Text.Utf8.decode rest).toOption
  | [0, _] => ofUnits16? true bytes
  | [_, 0] => ofUnits16? false bytes
  | 0 :: b :: _ :: _ :: _ => if b == 0 then ofUnits32? true bytes else ofUnits16? true bytes
  | _ :: 0 :: c :: d :: _ => if c == 0 && d == 0 then ofUnits32? false bytes else ofUnits16? false bytes
  | _ => (Text.Utf8.decode bytes).toOption

end GormModels.Json
