import Mathlib.Data.List.TakeWhile
import GormModels.Text.Blank
import GormModels.Text.Digit
import GormModels.Proofs.Text.Join

/-!
# Blanks

There are few blanks, so what is true of each of them is told by going through their codes.
-/

namespace GormModels.Text

/-- What is checked of a list of characters holds of each of them. Deciding it of all characters goes through
every one there is. -/
theorem forall_mem_of_all {p : Char → Prop} [DecidablePred p] {s : List Char}
    (h : s.all (fun c => decide (p c)) = true) : ∀ c ∈ s, p c := by
  simpa using h

/-- The codes of all blanks. -/
def blankCodes : List Nat :=
  List.range' 9 5 ++ List.range' 28 5 ++ [0x85, 0xA0, 0x1680] ++ List.range' 0x2000 11 ++
    [0x2028, 0x2029, 0x202F, 0x205F, 0x3000]

theorem toNat_mem_blankCodes {c : Char} (hc : isBlank c = true) : c.toNat ∈ blankCodes := by
  simp only [isBlank, Bool.or_eq_true, Bool.and_eq_true, decide_eq_true_eq, beq_iff_eq] at hc
  simp only [blankCodes, List.mem_append, List.mem_range'_1, List.mem_cons, List.not_mem_nil]
  omega

/-- What holds of the character of every blank code holds of every blank. -/
theorem of_blankCodes {p : Char → Prop} (hp : ∀ n ∈ blankCodes, p (Char.ofNat n)) {c : Char}
    (hc : isBlank c = true) : p c := by
  have hself := hp c.toNat (toNat_mem_blankCodes hc)
  rwa [Char.ofNat_toNat] at hself

theorem isWordChar_of_isBlank {c : Char} (hc : isBlank c = true) : isWordChar c = false :=
  of_blankCodes (p := fun c => isWordChar c = false) (by decide +kernel) hc

theorem trimLeft_of_head {c : Char} (hc : isBlank c = false) (s : List Char) : trimLeft (c :: s) = c :: s := by
  simp [trimLeft, hc]

theorem trimLeft_append {gap : List Char} (hgap : ∀ c ∈ gap, isBlank c = true) (s : List Char) :
    trimLeft (gap ++ s) = trimLeft s := by
  induction gap with
  | nil => rfl
  | cons c gap ih =>
      rw [List.cons_append, trimLeft, List.dropWhile_cons, if_pos (hgap c List.mem_cons_self)]
      exact ih fun d hd => hgap d (List.mem_cons_of_mem _ hd)

theorem isBlank_of_mem_words {s word : List Char} (hword : word ∈ words s) : ∀ c ∈ word, isBlank c = false := by
  fun_induction words s with
  | case1 => simp at hword
  | case2 s c rest htrim hlength ih =>
      obtain rfl | hword := List.mem_cons.mp hword
      · have hc := List.head?_dropWhile_not isBlank s
        rw [show s.dropWhile isBlank = c :: rest from htrim] at hc
        intro d hd
        obtain rfl | hd := List.mem_cons.mp hd
        · exact hc
        · simpa using List.mem_takeWhile_imp hd
      · exact ih hword

theorem ne_nil_of_mem_words {s word : List Char} (hword : word ∈ words s) : word ≠ [] := by
  fun_induction words s with
  | case1 => simp at hword
  | case2 s c rest htrim hlength ih =>
      obtain rfl | hword := List.mem_cons.mp hword
      · exact List.cons_ne_nil _ _
      · exact ih hword

theorem words_eq_nil_iff {s : List Char} : words s = [] ↔ ∀ c ∈ s, isBlank c = true := by
  rw [← List.dropWhile_eq_nil_iff, ← trimLeft]
  fun_cases words s with
  | case1 htrim => exact iff_of_true rfl htrim
  | case2 c rest htrim => simp [htrim]

theorem collapse_eq_nil_iff {s : List Char} : collapse s = [] ↔ ∀ c ∈ s, isBlank c = true := by
  rw [← words_eq_nil_iff, collapse]
  constructor
  · intro hcollapse
    by_contra hwords
    obtain ⟨word, hword⟩ := List.exists_mem_of_ne_nil _ hwords
    obtain ⟨c, hc⟩ := List.exists_mem_of_ne_nil _ (ne_nil_of_mem_words hword)
    have hmem : c ∈ [' '].intercalate (words s) := mem_intercalate_of_mem hword hc
    rw [hcollapse] at hmem
    cases hmem
  · intro hwords
    rw [hwords]
    rfl

/-- A text of words with single spaces between them ends as its last word does. -/
theorem isBlank_getLast?_collapse {s : List Char} : ∀ c ∈ (collapse s).getLast?, isBlank c = false := by
  intro c hc
  rcases List.eq_nil_or_concat' (words s) with hnone | ⟨front, last, hwords⟩
  · simp [collapse, hnone] at hc
  · have hlast : last ∈ words s := by simp [hwords]
    rw [collapse, hwords, getLast?_intercalate_concat front (ne_nil_of_mem_words hlast)] at hc
    exact isBlank_of_mem_words hlast c (List.mem_of_getLast? hc)

/-- No blank but the space is left where runs of blanks are made one space. -/
theorem isBlank_of_mem_collapse {s : List Char} {c : Char} (hc : c ∈ collapse s) : c = ' ' ∨ isBlank c = false := by
  obtain hspace | ⟨word, hword, hc⟩ := mem_of_mem_intercalate hc
  · exact .inl hspace
  · exact .inr (isBlank_of_mem_words hword c hc)

end GormModels.Text
