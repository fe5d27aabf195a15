/-!
Base64: bytes as texts of 64 letters. Characters that are none of them are passed over.
-/

namespace GormModels.Text.Base64

/-- The six bits that a letter stands for. -/
def letterValue? (c : Char) : Option Nat :=
  if c.isUpper then some (c.toNat - 65)
  else if c.isLower then some (c.toNat - 71)
  else if c.isDigit then some (c.toNat + 4)
  else if c == '+' then some 62
  else if c == '/' then some 63
  else none

inductive Fault
  | padding
  | count (letters : Nat)
  deriving DecidableEq, Repr

def Fault.message : Fault → String
  | padding => "Incorrect padding"
  | count letters =>
    "Invalid base64-encoded string: number of data characters (" ++ toString letters ++
      ") cannot be 1 more than a multiple of 4"

/-- The letters of a text up to the padding that completes a group of four. `pads` counts the padding
behind the last letter. -/
def lettersOf (found : List Nat) (pads : Nat) : List Char → List Nat × Bool
  | [] => (found, false)
  | c :: rest =>
    if c == '=' then
      let place := found.length % 4
      if place ≥ 2 && place + pads + 1 ≥ 4 then (found, true)
      else lettersOf found (if place ≥ 2 then pads + 1 else pads) rest
    else match letterValue? c with
      | some n => lettersOf (found ++ [n]) 0 rest
      | none => lettersOf found pads rest

/-- The bytes that groups of four letters make; a shorter group makes one byte less than it has letters. -/
def bytesOf : List Nat → List UInt8
  | a :: b :: c :: d :: rest =>
    .ofNat (a * 4 + b / 16) :: .ofNat (b % 16 * 16 + c / 4) :: .ofNat (c % 4 * 64 + d) :: bytesOf rest
  | [a, b, c] => [.ofNat (a * 4 + b / 16), .ofNat (b % 16 * 16 + c / 4)]
  | [a, b] => [.ofNat (a * 4 + b / 16)]
  | _ => []

def decode (s : List Char) : Except Fault (List UInt8) :=
  let (letters, complete) := lettersOf [] 0 s
  if complete || letters.length % 4 == 0 then .ok (bytesOf letters)
  else if letters.length % 4 == 1 then .error (.count letters.length)
  else .error .padding

end GormModels.Text.Base64
