/-!
Halves of surrogate pairs. One that stands alone is no character, but escapes and code units can write it. Where texts
with such halves are told of, each half is kept as a character for private use that no text has otherwise. Which
characters stand for halves is left open: where a text has one of them itself, others do, and where no text has a
half, none does.
-/

namespace GormModels.Text

def isHighHalf (unit : Nat) : Bool := 0xD800 ≤ unit && unit < 0xDC00

def isLowHalf (unit : Nat) : Bool := 0xDC00 ≤ unit && unit < 0xE000

def isHalf (unit : Nat) : Bool := isHighHalf unit || isLowHalf unit

/-- A character that is left to private use. -/
def isPrivate (c : Char) : Bool := 0xE000 ≤ c.toNat && c.toNat < 0xF900 || 0xF0000 ≤ c.toNat

/-- The characters that stand for halves, each for one. -/
class Halves where
  /-- The half that a character stands for, unless it stands for itself. -/
  half? : Char → Option Nat
  /-- The character that a half is kept as, if there is one. -/
  char? : Nat → Option Char
  half?_eq_some_iff (c : Char) (unit : Nat) : half? c = some unit ↔ char? unit = some c
  isHalf_of_char? {c : Char} {unit : Nat} : char? unit = some c → isHalf unit = true
  isPrivate_of_char? {c : Char} {unit : Nat} : char? unit = some c → isPrivate c = true

/-! ### All halves -/

theorem isHalf_iff {unit : Nat} : isHalf unit = true ↔ 0xD800 ≤ unit ∧ unit < 0xE000 := by
  simp [isHalf, isHighHalf, isLowHalf]
  omega

/-- The distance from a half to the character that it is kept as, in the last plane. -/
def keptBeyond : Nat := 0x10F000 - 0xD800

theorem toNat_kept {unit : Nat} (h : isHalf unit = true) :
    (Char.ofNat (unit + keptBeyond)).toNat = unit + keptBeyond := by
  have hvalid : (unit + keptBeyond).isValidChar := by
    rw [isHalf_iff] at h
    simp only [Nat.isValidChar, keptBeyond]
    omega
  rw [Char.ofNat, dif_pos hvalid]
  rfl

theorem isPrivate_kept {unit : Nat} (h : isHalf unit = true) : isPrivate (.ofNat (unit + keptBeyond)) = true := by
  have hfar : 0xF0000 ≤ unit + keptBeyond := by
    rw [isHalf_iff] at h
    simp only [keptBeyond]
    omega
  rw [isPrivate, toNat_kept h, decide_eq_true hfar, Bool.or_true]

theorem keptBeyond_le_of_isHalf {n : Nat} (h : isHalf (n - keptBeyond) = true) : keptBeyond ≤ n := by
  rw [isHalf_iff] at h
  omega

/-- Every half is kept, as one of 2048 characters of the last plane. Texts that have one of these themselves are spoken
of with another instance. -/
instance : Halves where
  half? c := if isHalf (c.toNat - keptBeyond) then some (c.toNat - keptBeyond) else none
  char? unit := if isHalf unit then some (.ofNat (unit + keptBeyond)) else none
  half?_eq_some_iff c unit := by
    simp only [Option.ite_none_right_eq_some, Option.some.injEq]
    constructor
    · rintro ⟨h, rfl⟩
      exact ⟨h, by rw [Nat.sub_add_cancel (keptBeyond_le_of_isHalf h), Char.ofNat_toNat]⟩
    · rintro ⟨h, rfl⟩
      rw [toNat_kept h, Nat.add_sub_cancel]
      exact ⟨h, rfl⟩
  isHalf_of_char? h := (Option.ite_none_right_eq_some.mp h).1
  isPrivate_of_char? h := by
    obtain ⟨h, heq⟩ := Option.ite_none_right_eq_some.mp h
    rw [← Option.some.inj heq]
    exact isPrivate_kept h

/-- The character that the halves of a pair write. -/
def joinHalves (high low : Nat) : Char := .ofNat (0x10000 + (high - 0xD800) * 0x400 + (low - 0xDC00))

section

variable [Halves]

def isLoneHalf (c : Char) : Bool := (Halves.half? c).isSome

/-- The character of a code unit by itself, if there is one. -/
def ofUnit? (unit : Nat) : Option Char := if isHalf unit then Halves.char? unit else some (.ofNat unit)

/-- The text that code units of 16 bits write. -/
def ofUnits? : List Nat → Option (List Char)
  | high :: low :: rest =>
    if isHighHalf high && isLowHalf low then (ofUnits? rest).map (joinHalves high low :: ·)
    else do return (← ofUnit? high) :: (← ofUnits? (low :: rest))
  | [unit] => (ofUnit? unit).map ([·])
  | [] => some []

end

end GormModels.Text
