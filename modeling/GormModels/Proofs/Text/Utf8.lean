import Mathlib.Data.List.Basic
import Mathlib.Tactic.SplitIfs
import GormModels.Text.Utf8

/-!
# Bytes of a text

Reading the bytes that a text is written in gives the text again. The first byte of a character tells how many
follow.
-/

namespace GormModels.Text.Utf8

/-! ### Writing -/

theorem toList_loop (bytes : ByteArray) (i : Nat) (front : List UInt8) :
    ByteArray.toList.loop bytes i front = front.reverse ++ bytes.data.toList.drop i := by
  fun_induction ByteArray.toList.loop bytes i front with
  | case1 i front hi ih =>
      have hi : i < bytes.data.size := hi
      have hdrop : bytes.data.toList.drop i = bytes.data[i] :: bytes.data.toList.drop (i + 1) :=
        List.drop_eq_getElem_cons (by simpa using hi)
      rw [ih, hdrop, ByteArray.get!, getElem!_pos bytes.data i hi]
      simp
  | case2 i front hi =>
      have hi : bytes.data.toList.length ≤ i := by simpa using hi
      rw [List.drop_eq_nil_of_le hi, List.append_nil]

theorem encode_eq (s : String) : encode s = s.toList.flatMap String.utf8EncodeChar := by
  rw [encode, String.toUTF8_eq_toByteArray, ← String.utf8Encode_toList, ByteArray.toList, toList_loop]
  simp [List.utf8Encode]

/-! ### Reading back -/

theorem isValid (c : Char) : c.toNat < 0xD800 ∨ 0xDFFF < c.toNat ∧ c.toNat < 0x110000 := c.valid

/-- The first of three bytes, with the second one in the bounds that it sets. -/
theorem shape?_three {n : Nat} (hlow : 0x800 ≤ n) (hhigh : n ≤ 0xFFFF) (hvalid : n < 0xD800 ∨ 0xDFFF < n) :
    ∃ low high, shape? (n / 4096 + 0xE0) = some (2, low, high) ∧ low ≤ n / 64 % 64 + 0x80 ∧
      n / 64 % 64 + 0x80 ≤ high := by
  unfold shape?
  split_ifs <;> first | omega | exact ⟨_, _, rfl, by omega, by omega⟩

theorem shape?_four {n : Nat} (hlow : 0x10000 ≤ n) (hhigh : n < 0x110000) :
    ∃ low high, shape? (n / 262144 + 0xF0) = some (3, low, high) ∧ low ≤ n / 4096 % 64 + 0x80 ∧
      n / 4096 % 64 + 0x80 ≤ high := by
  unfold shape?
  split_ifs <;> first | omega | exact ⟨_, _, rfl, by omega, by omega⟩

theorem toNat_ofNat {n : Nat} (hn : n < 256) : (UInt8.ofNat n).toNat = n := by simp [hn]

/-- The byte behind the first of a character, or behind the second. -/
theorem tail_ofNat {n low high : Nat} (hn : n < 64) (hlow : low ≤ n + 0x80) (hhigh : n + 0x80 ≤ high)
    (value taken more : Nat) (rest : List UInt8) :
    tail value taken (more + 1) low high (UInt8.ofNat (n + 0x80) :: rest) =
      tail (value * 64 + n) (taken + 1) more 0x80 0xBF rest := by
  have hbyte : (UInt8.ofNat (n + 0x80)).toNat = n + 0x80 := toNat_ofNat (by omega)
  rw [tail, hbyte, if_pos ⟨hlow, hhigh⟩, Nat.add_sub_cancel]

theorem piece_utf8EncodeChar (c : Char) (rest : List UInt8) :
    ∃ b more, String.utf8EncodeChar c = b :: more ∧ piece b (more ++ rest) = (.char c, more.length + 1) := by
  have hvalid := isValid c
  have hchar {n : Nat} (hn : n = c.toNat) : Char.ofNat n = c := hn ▸ Char.ofNat_toNat c
  have hend (value taken low high : Nat) : tail value taken 0 low high rest = (.char (.ofNat value), taken) := rfl
  rw [String.utf8EncodeChar]
  change ∃ b more, (if c.toNat ≤ 0x7f then _ else _) = b :: more ∧ _
  split_ifs with hone htwo hthree
  · refine ⟨_, _, rfl, ?_⟩
    change piece (UInt8.ofNat c.toNat) rest = (.char c, 1)
    rw [piece, toNat_ofNat (by omega), if_pos (by omega), hchar rfl]
  · refine ⟨_, _, rfl, ?_⟩
    change c.toNat ≤ 0x7ff at htwo
    change piece (UInt8.ofNat (c.toNat / 64 % 32 + 0xC0)) (UInt8.ofNat (c.toNat % 64 + 0x80) :: rest) = (.char c, 2)
    have hshape : shape? (c.toNat / 64 % 32 + 0xC0) = some (1, 0x80, 0xBF) := if_pos (by omega)
    have hpow : Nat.pow 2 (6 - 1) = 32 := rfl
    rw [piece, toNat_ofNat (by omega), if_neg (by omega), hshape]
    dsimp only
    rw [hpow, tail_ofNat (by omega) (by omega) (by omega), hend, hchar]
    omega
  · refine ⟨_, _, rfl, ?_⟩
    change ¬ c.toNat ≤ 0x7ff at htwo
    change c.toNat ≤ 0xffff at hthree
    change piece (UInt8.ofNat (c.toNat / 4096 % 16 + 0xE0))
      (UInt8.ofNat (c.toNat / 64 % 64 + 0x80) :: UInt8.ofNat (c.toNat % 64 + 0x80) :: rest) = (.char c, 3)
    obtain ⟨low, high, hshape, hlow, hhigh⟩ := shape?_three (n := c.toNat) (by omega) hthree (by omega)
    have hpow : Nat.pow 2 (6 - 2) = 16 := rfl
    rw [piece, toNat_ofNat (by omega), if_neg (by omega), show c.toNat / 4096 % 16 = c.toNat / 4096 by omega, hshape]
    dsimp only
    rw [hpow, tail_ofNat (by omega) hlow hhigh, tail_ofNat (by omega) (by omega) (by omega), hend, hchar]
    omega
  · refine ⟨_, _, rfl, ?_⟩
    change ¬ c.toNat ≤ 0xffff at hthree
    change piece (UInt8.ofNat (c.toNat / 262144 % 8 + 0xF0)) (UInt8.ofNat (c.toNat / 4096 % 64 + 0x80) ::
      UInt8.ofNat (c.toNat / 64 % 64 + 0x80) :: UInt8.ofNat (c.toNat % 64 + 0x80) :: rest) = (.char c, 4)
    obtain ⟨low, high, hshape, hlow, hhigh⟩ := shape?_four (n := c.toNat) (by omega) (by omega)
    have hpow : Nat.pow 2 (6 - 3) = 8 := rfl
    rw [piece, toNat_ofNat (by omega), if_neg (by omega), show c.toNat / 262144 % 8 = c.toNat / 262144 by omega, hshape]
    dsimp only
    rw [hpow, tail_ofNat (by omega) hlow hhigh, tail_ofNat (by omega) (by omega) (by omega),
      tail_ofNat (by omega) (by omega) (by omega), hend, hchar]
    omega

theorem pieces_flatMap (cs : List Char) : (pieces (cs.flatMap String.utf8EncodeChar)).map (·.1) = cs.map .char := by
  induction cs with
  | nil => rw [List.flatMap_nil, pieces]; rfl
  | cons c cs ih =>
      obtain ⟨b, more, hbytes, hpiece⟩ := piece_utf8EncodeChar c (cs.flatMap String.utf8EncodeChar)
      rw [List.flatMap_cons, hbytes, List.cons_append, pieces, hpiece]
      simp [ih]

theorem firstFault_of_chars {ps : List (Piece × Nat)} {cs : List Char} (h : ps.map (·.1) = cs.map .char)
    (bytes : List UInt8) (position : Nat) : firstFault bytes position ps = none := by
  induction ps generalizing cs position with
  | nil => rfl
  | cons p ps ih =>
      cases cs with
      | nil => cases h
      | cons c cs =>
          obtain ⟨p, n⟩ := p
          obtain ⟨rfl, hrest⟩ := List.cons.inj h
          exact ih hrest (position + n)

/-- What a piece of the bytes is shown as. -/
def Piece.shown : Piece → Char
  | .char c => c
  | .flaw _ _ => '\ufffd'

/-- The bytes of a text are read as the text. -/
theorem decode_encode (s : String) : decode (encode s) = .ok s.toList := by
  have hpieces := pieces_flatMap s.toList
  rw [← encode_eq] at hpieces
  have hlossy : decodeLossy (encode s) = s.toList := by
    have hreplace : decodeLossy (encode s) = ((pieces (encode s)).map (·.1)).map Piece.shown := by
      rw [List.map_map]
      rfl
    rw [hreplace, hpieces, List.map_map]
    exact List.map_id _
  rw [decode, firstFault_of_chars hpieces, hlossy]

end GormModels.Text.Utf8
