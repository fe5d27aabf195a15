/-!
White space: the characters that part words, and the operations that trim and collapse it.
-/

namespace GormModels.Text

/-- White space of Unicode, with the information separators U+001C to U+001F. -/
def isBlank (c : Char) : Bool :=
  let n := c.toNat
  (9 ≤ n && n ≤ 13) || (28 ≤ n && n ≤ 32) || n == 0x85 || n == 0xA0 || n == 0x1680 ||
    (0x2000 ≤ n && n ≤ 0x200A) || n == 0x2028 || n == 0x2029 || n == 0x202F || n == 0x205F ||
    n == 0x3000

def trimLeft (s : List Char) : List Char := s.dropWhile isBlank

def trimRight (s : List Char) : List Char := (s.reverse.dropWhile isBlank).reverse

def trim (s : List Char) : List Char := trimRight (trimLeft s)

theorem length_dropWhile_le {α : Type} (p : α → Bool) (s : List α) :
    (s.dropWhile p).length ≤ s.length := by
  induction s with
  | nil => simp
  | cons a s ih =>
    rw [List.dropWhile_cons]
    split
    · exact Nat.le_succ_of_le ih
    · exact Nat.le_refl _

/-- The maximal runs of characters that are not blank. -/
def words (s : List Char) : List (List Char) :=
  match h : trimLeft s with
  | [] => []
  | c :: rest =>
    have : ((c :: rest).dropWhile (!isBlank ·)).length < s.length + 1 := by
      have h₁ := length_dropWhile_le (!isBlank ·) (c :: rest)
      have h₂ := length_dropWhile_le isBlank s
      rw [show s.dropWhile isBlank = c :: rest from h] at h₂
      omega
    (c :: rest.takeWhile (!isBlank ·)) :: words (rest.dropWhile (!isBlank ·))
termination_by s.length
decreasing_by
  have h₁ := length_dropWhile_le (!isBlank ·) rest
  have h₂ := length_dropWhile_le isBlank s
  rw [show s.dropWhile isBlank = c :: rest from h, List.length_cons] at h₂
  omega

/-- Every run of blanks becomes one space, and none is left at the ends. -/
def collapse (s : List Char) : List Char := [' '].intercalate (words s)

end GormModels.Text
