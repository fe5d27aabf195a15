/-!
UTF-8: texts as bytes. Reading stops at bytes that begin no character, or puts a replacement for them.
-/

namespace GormModels.Text.Utf8

/-- What is wrong with the bytes at some place. -/
inductive Flaw
  | start
  | continuation
  | cutOff
  deriving DecidableEq, Repr

def Flaw.message : Flaw → String
  | start => "invalid start byte"
  | continuation => "invalid continuation byte"
  | cutOff => "unexpected end of data"

/-- How many bytes follow a first byte, and the range of the one behind it. -/
def shape? (b : Nat) : Option (Nat × Nat × Nat) :=
  if 0xC2 ≤ b ∧ b ≤ 0xDF then some (1, 0x80, 0xBF)
  else if b = 0xE0 then some (2, 0xA0, 0xBF)
  else if b = 0xED then some (2, 0x80, 0x9F)
  else if 0xE1 ≤ b ∧ b ≤ 0xEF then some (2, 0x80, 0xBF)
  else if b = 0xF0 then some (3, 0x90, 0xBF)
  else if 0xF1 ≤ b ∧ b ≤ 0xF3 then some (3, 0x80, 0xBF)
  else if b = 0xF4 then some (3, 0x80, 0x8F)
  else none

/-- What stands at the start of some bytes: a character, or a flaw with the number of bytes that it
spoils. -/
inductive Piece
  | char (c : Char)
  | flaw (flaw : Flaw) (spoiled : Nat)
  deriving DecidableEq, Repr

/-- Reads the bytes behind a first one: `value` is what the bytes so far stand for, `taken` their
number. -/
def tail (value taken : Nat) : Nat → Nat → Nat → List UInt8 → Piece × Nat
  | 0, _, _, _ => (.char (.ofNat value), taken)
  | _ + 1, _, _, [] => (.flaw .cutOff taken, taken)
  | more + 1, low, high, b :: rest =>
    if low ≤ b.toNat ∧ b.toNat ≤ high then
      tail (value * 64 + (b.toNat - 0x80)) (taken + 1) more 0x80 0xBF rest
    else (.flaw .continuation taken, taken)

/-- The piece at the start of bytes whose first is `b`, and the number of bytes it takes. -/
def piece (b : UInt8) (rest : List UInt8) : Piece × Nat :=
  if b.toNat < 0x80 then (.char (.ofNat b.toNat), 1)
  else match shape? b.toNat with
    | none => (.flaw .start 1, 1)
    | some (more, low, high) => tail (b.toNat % Nat.pow 2 (6 - more)) 1 more low high rest

/-- The pieces of some bytes, each with the number of bytes it takes. -/
def pieces (bytes : List UInt8) : List (Piece × Nat) :=
  match bytes with
  | [] => []
  | b :: rest =>
    let (p, n) := piece b rest
    (p, n) :: pieces (rest.drop (n - 1))
termination_by bytes.length
decreasing_by simp only [List.length_cons, List.length_drop]; omega

/-- A flaw with the place of the first byte that it spoils. -/
structure Fault where
  flaw : Flaw
  position : Nat
  spoiled : Nat
  byte : Nat
  deriving DecidableEq, Repr

def hexByte (n : Nat) : String := .ofList ['0', 'x', Nat.digitChar (n / 16), Nat.digitChar (n % 16)]

def Fault.message (f : Fault) : String :=
  let place :=
    if f.spoiled = 1 then "byte " ++ hexByte f.byte ++ " in position " ++ toString f.position
    else "bytes in position " ++ toString f.position ++ "-" ++ toString (f.position + f.spoiled - 1)
  "'utf-8' codec can't decode " ++ place ++ ": " ++ f.flaw.message

/-- The first flaw among pieces that start at a place. -/
def firstFault (bytes : List UInt8) (position : Nat) : List (Piece × Nat) → Option Fault
  | [] => none
  | (.char _, n) :: rest => firstFault bytes (position + n) rest
  | (.flaw flaw spoiled, _) :: _ =>
    some ⟨flaw, position, spoiled, (bytes[position]?).elim 0 UInt8.toNat⟩

/-- The text, with a replacement for every flaw. -/
def decodeLossy (bytes : List UInt8) : List Char :=
  (pieces bytes).map fun (p, _) => match p with
    | .char c => c
    | .flaw _ _ => '\ufffd'

def decode (bytes : List UInt8) : Except Fault (List Char) :=
  match firstFault bytes 0 (pieces bytes) with
  | some f => .error f
  | none => .ok (decodeLossy bytes)

def encode (s : String) : List UInt8 := s.toUTF8.toList

end GormModels.Text.Utf8

namespace GormModels.Text

/-- A text with each of its line ends as one line feed. -/
def unifyLineEnds : List Char → List Char
  | [] => []
  | '\r' :: '\n' :: rest => '\n' :: unifyLineEnds rest
  | '\r' :: rest => '\n' :: unifyLineEnds rest
  | c :: rest => c :: unifyLineEnds rest

end GormModels.Text
