import Mathlib.Tactic.ByContra
import GormModels.Text.Digit
import GormModels.Proofs.Text.Case

/-!
# What letter case does to letters and numerals

The tables are long, so their spans are compared and not their characters. Letter case takes no numeral to a
letter or a decimal digit, and of the letters only one has a lower case that is spelled with a mark.
-/

namespace GormModels.Text

/-! ### Spans -/

/-- The span of one code. -/
def Span.single (n : Nat) : Span := ⟨n, n, 1⟩

/-- Every code of the second span is one of the first. -/
def Span.covers (t s : Span) : Bool :=
  t.first.ble s.first && s.last.ble t.last && ((s.first - t.first) % t.step).beq 0 &&
    (s.first.beq s.last || (s.step % t.step).beq 0)

/-- One span ends before the other starts. -/
def Span.apart (s t : Span) : Bool := s.last.blt t.first || t.last.blt s.first

/-- All spans are apart from one. -/
def Spans.apart (spans : Spans) (s : Span) : Bool := spans.all (·.apart s)

/-- One of the spans covers another. -/
def Spans.covers (spans : Spans) (s : Span) : Bool := spans.any (·.covers s)

theorem Span.contains_iff {s : Span} {n : Nat} :
    s.contains n = true ↔ s.first ≤ n ∧ n ≤ s.last ∧ (n - s.first) % s.step = 0 := by
  simp [Span.contains, and_assoc]

theorem Span.contains_single (n : Nat) : (Span.single n).contains n = true := by
  simp [Span.contains_iff, Span.single]

theorem Span.contains_of_covers {s t : Span} {n : Nat} (hcovers : t.covers s = true)
    (hn : s.contains n = true) : t.contains n = true := by
  simp only [Span.covers, Bool.and_eq_true, Bool.or_eq_true, Nat.ble_eq, Nat.beq_eq] at hcovers
  obtain ⟨⟨⟨hfirst, hlast⟩, hoffset⟩, hsteps⟩ := hcovers
  obtain ⟨hle, hge, hstep⟩ := Span.contains_iff.mp hn
  refine Span.contains_iff.mpr ⟨by omega, by omega, ?_⟩
  have hsum : n - t.first = (n - s.first) + (s.first - t.first) := by omega
  have hinner : (n - s.first) % t.step = 0 := by
    obtain hsingle | hdvd := hsteps
    · rw [show n - s.first = 0 by omega, Nat.zero_mod]
    · exact Nat.mod_eq_zero_of_dvd (Nat.dvd_trans (Nat.dvd_of_mod_eq_zero hdvd) (Nat.dvd_of_mod_eq_zero hstep))
  rw [hsum, Nat.add_mod, hinner, hoffset, Nat.zero_mod]

theorem Span.not_contains_of_apart {s t : Span} {n : Nat} (hapart : s.apart t = true)
    (hn : t.contains n = true) : s.contains n = false := by
  obtain ⟨hle, hge, -⟩ := Span.contains_iff.mp hn
  simp only [Span.apart, Bool.or_eq_true, Nat.blt_eq] at hapart
  rw [← Bool.not_eq_true, Span.contains_iff]
  omega

theorem Spans.contains_of_covers {spans : Spans} {s : Span} {n : Nat} (hcovers : spans.covers s = true)
    (hn : s.contains n = true) : spans.any (·.contains n) = true := by
  obtain ⟨t, ht, hcovers⟩ := List.any_eq_true.mp hcovers
  exact List.any_eq_true.mpr ⟨t, ht, Span.contains_of_covers hcovers hn⟩

/-- The spans that a code lies in are not all apart from another of its spans. -/
theorem Spans.not_contains_of_apart {spans : Spans} {s : Span} {n : Nat} (hapart : spans.apart s = true)
    (hn : s.contains n = true) : spans.any (·.contains n) = false := by
  rw [List.any_eq_false]
  intro t ht
  rw [Bool.not_eq_true]
  exact Span.not_contains_of_apart (List.all_eq_true.mp hapart t ht) hn

/-- The codes of a span, of a short one at least. -/
def Span.codes (s : Span) : List Nat := (List.range (s.last - s.first + 1)).map (s.first + ·)

theorem Span.mem_codes_of_contains {s : Span} {n : Nat} (hn : s.contains n = true) : n ∈ s.codes := by
  obtain ⟨hle, hge, -⟩ := Span.contains_iff.mp hn
  exact List.mem_map.mpr ⟨n - s.first, List.mem_range.mpr (by omega), by omega⟩

theorem Spans.contain_append (spans spans' : Spans) (c : Char) :
    Spans.contain (spans ++ spans') c = (spans.contain c || spans'.contain c) :=
  List.any_append

/-- The codes that a shift moves its span to. -/
def Shift.image (shift : Shift) : Span :=
  ⟨shift.target, shift.target + (shift.span.last - shift.span.first), shift.span.step⟩

theorem Shift.contains_image {shift : Shift} {n : Nat} (hn : shift.span.contains n = true) :
    shift.image.contains (shift.target + (n - shift.span.first)) = true := by
  obtain ⟨hle, hge, hstep⟩ := Span.contains_iff.mp hn
  exact Span.contains_iff.mpr ⟨by simp [Shift.image], by simp [Shift.image]; omega, by simpa [Shift.image] using hstep⟩

theorem Shift.of_move? {shift : Shift} {c d : Char} (hmove : shift.move? c = some d) :
    shift.span.contains c.toNat = true ∧ d = Char.ofNat (shift.target + (c.toNat - shift.span.first)) := by
  rw [Shift.move?] at hmove
  split at hmove
  case isTrue hcontains => exact ⟨hcontains, (Option.some.inj hmove).symm⟩
  case isFalse => cases hmove

/-! ### What the tables say -/

/-- A character that Go identifiers are made of: a letter, an underscore or a decimal digit. -/
def isIdentifierChar (c : Char) : Bool := isLetter c || c == '_' || isDecimal c

/-- The numerals of words that are no decimal digits. -/
def numeralSpans : Spans := otherDigitSpans ++ otherNumeralSpans

/-- Decimal digits and the others. -/
def digitSpans : Spans := decimalSpans ++ otherDigitSpans

/-- What the proofs read off the tables, span by span. -/
structure CaseTables : Prop where
  upper_ne_nil : ∀ entry ∈ upperExpansions, entry.2 ≠ []
  letter_valid : ∀ span ∈ letterSpans,
    128 ≤ span.first ∧ (span.last < 0xD800 ∨ 0xDFFF < span.first ∧ span.last < 0x110000)
  numeral_expansion : ∀ entry ∈ lowerExpansions ++ upperExpansions,
    numeralSpans.apart (.single entry.1) = true
  numeral_shift : ∀ shift ∈ lowerShifts ++ upperShifts, numeralSpans.apart shift.span = true ∨
    Spans.apart (letterSpans ++ decimalSpans) shift.image = true ∧ 128 ≤ shift.image.first
  /-- Where a shift moves letters to, there are letters. -/
  letter_shift : ∀ shift ∈ lowerShifts,
    letterSpans.covers shift.image = true ∨ letterSpans.apart shift.span = true ∨
      ∀ n ∈ shift.span.codes, isLetter (Char.ofNat (shift.target + (n - shift.span.first))) = true
  decimal_shift : ∀ shift ∈ lowerShifts, decimalSpans.apart shift.span = true
  small_expansion : ∀ entry ∈ upperExpansions, Spans.covers (lowerSpans ++ titleSpans) (.single entry.1) = true
  small_shift : ∀ shift ∈ upperShifts, Spans.covers (lowerSpans ++ titleSpans) shift.span = true
  digit_expansion : ∀ entry ∈ upperExpansions, ∀ n ∈ entry.2, isDigit (Char.ofNat n) = false
  digit_shift : ∀ shift ∈ upperShifts, digitSpans.apart shift.image = true ∧
    (128 ≤ shift.image.first ∨ shift.image.last < 128 ∧ ∀ n ∈ shift.image.codes, isDigit (Char.ofNat n) = false)
  digit_not_small : ∀ span ∈ digitSpans, Spans.apart (lowerSpans ++ titleSpans) span = true
  digit_not_letter : ∀ span ∈ otherDigitSpans, letterSpans.apart span = true
  sigma : isIdentifierChar 'Σ' = true ∧ isIdentifierChar 'σ' = true ∧ isIdentifierChar 'ς' = true
  /-- The dot of the capital is kept as a mark. -/
  dotted : (lowerChar 'İ').all isIdentifierChar = false

theorem caseTables : CaseTables where
  upper_ne_nil := by decide +kernel
  letter_valid := by decide +kernel
  numeral_expansion := by decide +kernel
  numeral_shift := by decide +kernel
  letter_shift := by decide +kernel
  decimal_shift := by decide +kernel
  small_expansion := by decide +kernel
  small_shift := by decide +kernel
  digit_expansion := by decide +kernel
  digit_shift := by decide +kernel
  digit_not_small := by decide +kernel
  digit_not_letter := by decide +kernel
  sigma := by decide +kernel
  dotted := by decide +kernel

/-! ### Letter case beyond ASCII -/

/-- What holds of every ASCII code holds of an ASCII character. It is told by deciding it of each, which takes
`List.all` where it is about all characters of a list: else every character there is is gone through. -/
theorem of_ascii {p : Char → Prop} (hp : ∀ n < 128, p (Char.ofNat n)) {c : Char} (hc : c.toNat < 128) : p c := by
  have hself := hp c.toNat hc
  rwa [Char.ofNat_toNat] at hself

/-- How a character beyond ASCII is mapped: by an entry of its own, with the span it lies in, or not at all. -/
inductive CaseMapped (expansions : List (Nat × List Nat)) (shifts : List Shift) (c : Char) : List Char → Prop
  | expansion {entry : Nat × List Nat} (hentry : entry ∈ expansions) (hcode : entry.1 = c.toNat) :
      CaseMapped expansions shifts c (entry.2.map Char.ofNat)
  | shift {shift : Shift} {d : Char} (hshift : shift ∈ shifts) (hmove : shift.move? c = some d) :
      CaseMapped expansions shifts c [d]
  | self : CaseMapped expansions shifts c [c]

theorem caseMapped (expansions : List (Nat × List Nat)) (shifts : List Shift) (c : Char) :
    CaseMapped expansions shifts c (match expansions.find? (·.1 == c.toNat) with
      | some (_, codes) => codes.map Char.ofNat
      | none => [(shifts.findSome? fun shift : Shift => shift.move? c).getD c]) := by
  split
  case h_1 code codes hfound =>
      exact .expansion (List.mem_of_find?_eq_some hfound) (by simpa using List.find?_some hfound)
  case h_2 =>
      cases hmoved : shifts.findSome? fun shift : Shift => shift.move? c with
      | none => exact .self
      | some d =>
          obtain ⟨shift, hshift, hmove⟩ := List.exists_of_findSome?_eq_some hmoved
          exact .shift hshift hmove

theorem caseMapped_upperChar {c : Char} (hc : ¬c.toNat < 128) :
    CaseMapped upperExpansions upperShifts c (upperChar c) := by
  rw [upperChar, if_neg hc]
  exact caseMapped _ _ c

theorem caseMapped_lowerChar {c : Char} (hc : ¬c.toNat < 128) :
    CaseMapped lowerExpansions lowerShifts c (lowerChar c) := by
  rw [lowerChar, if_neg hc]
  exact caseMapped _ _ c

theorem upperChar_ne_nil (c : Char) : upperChar c ≠ [] := by
  by_cases hascii : c.toNat < 128
  · rw [upperChar, if_pos hascii]
    exact List.cons_ne_nil _ _
  have hmapped := caseMapped_upperChar hascii
  generalize upperChar c = mapped at hmapped ⊢
  cases hmapped with
  | expansion hentry hcode => simpa using caseTables.upper_ne_nil _ hentry
  | shift hshift hmove => exact List.cons_ne_nil _ _
  | self => exact List.cons_ne_nil _ _

/-! ### Characters of identifiers -/

theorem isIdentifierChar_iff {c : Char} (hc : ¬c.toNat < 128) :
    isIdentifierChar c = true ↔ (letterSpans ++ decimalSpans).contain c = true := by
  have hunderscore : c ≠ '_' := by
    rintro rfl
    exact hc (by decide)
  simp [isIdentifierChar, isLetter, isDecimal, hc, hunderscore, Spans.contain_append]

/-- A word character of no identifier is a numeral beyond ASCII. -/
theorem numeral_of_not_isIdentifierChar {c : Char} (hword : isWordChar c = true)
    (hc : isIdentifierChar c = false) : ¬c.toNat < 128 ∧ numeralSpans.contain c = true := by
  have hascii : ¬c.toNat < 128 := fun hascii =>
    of_ascii (p := fun c => isWordChar c = true → isIdentifierChar c ≠ false) (by decide) hascii hword hc
  refine ⟨hascii, ?_⟩
  simp only [isIdentifierChar, Bool.or_eq_false_iff, beq_eq_false_iff_ne, isDecimal, if_neg hascii] at hc
  obtain ⟨⟨hletter, hunderscore⟩, hdecimal⟩ := hc
  rw [numeralSpans, Spans.contain_append]
  simpa [isWordChar, isAlphanumeric, isDigit, hascii, hletter, hunderscore, hdecimal] using hword

/-- A code whose character is told from the null character is the code of that character. -/
theorem eq_toNat_ofNat {p : Char → Bool} (hnull : p '\x00' = false) {n : Nat} (hn : p (Char.ofNat n) = true) :
    n = (Char.ofNat n).toNat := by
  refine toNat_of_ofNat_eq ?_ rfl
  intro heq
  rw [heq, hnull] at hn
  cases hn

/-- The codes of identifier characters beyond ASCII are kept away from. -/
theorem not_isIdentifierChar_of_apart {s : Span} {n : Nat} (hapart : Spans.apart (letterSpans ++ decimalSpans) s = true)
    (hfirst : 128 ≤ s.first) (hn : s.contains n = true) : isIdentifierChar (Char.ofNat n) = false := by
  by_contra hidentifier
  rw [Bool.not_eq_false] at hidentifier
  have hcode := eq_toNat_ofNat (by decide) hidentifier
  have hlow := (Span.contains_iff.mp hn).1
  rw [isIdentifierChar_iff (by omega), Spans.contain, ← hcode, Spans.not_contains_of_apart hapart hn] at hidentifier
  cases hidentifier

/-- Numerals stay numerals: neither their upper nor their lower case is of an identifier. -/
theorem exists_not_isIdentifierChar_of_caseMapped {expansions : List (Nat × List Nat)} {shifts : List Shift} {c : Char}
    {mapped : List Char} (hexpansions : ∀ entry ∈ expansions, entry ∈ lowerExpansions ++ upperExpansions)
    (hshifts : ∀ shift ∈ shifts, shift ∈ lowerShifts ++ upperShifts) (hc : numeralSpans.contain c = true)
    (hidentifier : isIdentifierChar c = false) (hmapped : CaseMapped expansions shifts c mapped) :
    ∃ d ∈ mapped, isIdentifierChar d = false := by
  cases hmapped with
  | expansion hentry hcode =>
      have hnot := Spans.not_contains_of_apart (caseTables.numeral_expansion _ (hexpansions _ hentry))
        (Span.contains_single _)
      rw [hcode, ← Spans.contain, hc] at hnot
      cases hnot
  | @shift shift d hshift hmove =>
      obtain ⟨hcontains, rfl⟩ := Shift.of_move? hmove
      refine ⟨_, List.mem_singleton_self _, ?_⟩
      obtain hapart | ⟨hapart, hfirst⟩ := caseTables.numeral_shift shift (hshifts shift hshift)
      · have hnot := Spans.not_contains_of_apart hapart hcontains
        rw [← Spans.contain, hc] at hnot
        cases hnot
      · exact not_isIdentifierChar_of_apart hapart hfirst (Shift.contains_image hcontains)
  | self => exact ⟨c, List.mem_singleton_self c, hidentifier⟩

theorem isIdentifierChar_of_upperChar {c : Char} (hword : isWordChar c = true)
    (hupper : ∀ d ∈ upperChar c, isIdentifierChar d = true) : isIdentifierChar c = true := by
  by_contra hidentifier
  rw [Bool.not_eq_true] at hidentifier
  obtain ⟨hascii, hnumeral⟩ := numeral_of_not_isIdentifierChar hword hidentifier
  obtain ⟨d, hd, hnot⟩ := exists_not_isIdentifierChar_of_caseMapped
    (fun _ hentry => List.mem_append_right _ hentry) (fun _ hshift => List.mem_append_right _ hshift)
    hnumeral hidentifier (caseMapped_upperChar hascii)
  rw [hupper d hd] at hnot
  cases hnot

theorem isIdentifierChar_of_lowerChar {c : Char} (hword : isWordChar c = true)
    (hlower : ∀ d ∈ lowerChar c, isIdentifierChar d = true) : isIdentifierChar c = true := by
  by_contra hidentifier
  rw [Bool.not_eq_true] at hidentifier
  obtain ⟨hascii, hnumeral⟩ := numeral_of_not_isIdentifierChar hword hidentifier
  obtain ⟨d, hd, hnot⟩ := exists_not_isIdentifierChar_of_caseMapped
    (fun _ hentry => List.mem_append_left _ hentry) (fun _ hshift => List.mem_append_left _ hshift)
    hnumeral hidentifier (caseMapped_lowerChar hascii)
  rw [hlower d hd] at hnot
  cases hnot

/-! ### Lower case of identifier characters -/

theorem isLetter_ofNat {n : Nat} (hn : letterSpans.any (·.contains n) = true) : isLetter (Char.ofNat n) = true := by
  obtain ⟨span, hspan, hcontains⟩ := List.any_eq_true.mp hn
  obtain ⟨hle, hge, -⟩ := Span.contains_iff.mp hcontains
  obtain ⟨hfirst, hlast⟩ := caseTables.letter_valid span hspan
  have hvalid : n.isValidChar := by
    obtain hlow | ⟨hhigh, hlimit⟩ := hlast
    · exact .inl (by omega)
    · exact .inr ⟨by omega, by omega⟩
  have hcode : (Char.ofNat n).toNat = n := by rw [Char.ofNat, dif_pos hvalid]; rfl
  rw [isLetter, if_neg (by omega), Spans.contain, hcode]
  exact hn

/-- The lower case of an identifier character is made of identifier characters, but for the one capital
whose dot is kept as a mark. -/
theorem isIdentifierChar_lowerChar {c : Char} (hc : isIdentifierChar c = true) (hdot : c ≠ 'İ') :
    ∀ d ∈ lowerChar c, isIdentifierChar d = true := by
  by_cases hascii : c.toNat < 128
  · have hlowered : (lowerChar c).all isIdentifierChar = true :=
      of_ascii (p := fun c => isIdentifierChar c = true → (lowerChar c).all isIdentifierChar = true)
        (by decide) hascii hc
    exact List.all_eq_true.mp hlowered
  have hmapped := caseMapped_lowerChar hascii
  rw [isIdentifierChar_iff hascii, Spans.contain_append, Bool.or_eq_true] at hc
  generalize lowerChar c = lowered at hmapped ⊢
  cases hmapped with
  | @expansion entry hentry hcode =>
      obtain rfl : entry = (304, [105, 775]) := List.mem_singleton.mp hentry
      exact absurd (Char.toNat_inj.mp hcode.symm) hdot
  | @shift shift d hshift hmove =>
      obtain ⟨hcontains, rfl⟩ := Shift.of_move? hmove
      rintro _ (_ | ⟨_, ⟨⟩⟩)
      obtain hletter | hdecimal := hc
      · have himage : isLetter (Char.ofNat (shift.target + (c.toNat - shift.span.first))) = true := by
          obtain hcovers | hapart | hcodes := caseTables.letter_shift shift hshift
          · exact isLetter_ofNat (Spans.contains_of_covers hcovers (Shift.contains_image hcontains))
          · rw [Spans.contain, Spans.not_contains_of_apart hapart hcontains] at hletter
            cases hletter
          · exact hcodes c.toNat (Span.mem_codes_of_contains hcontains)
        rw [isIdentifierChar, himage, Bool.true_or, Bool.true_or]
      · rw [Spans.contain, Spans.not_contains_of_apart (caseTables.decimal_shift shift hshift) hcontains] at hdecimal
        cases hdecimal
  | self =>
      rintro _ (_ | ⟨_, ⟨⟩⟩)
      rwa [isIdentifierChar_iff hascii, Spans.contain_append, Bool.or_eq_true]

/-- A word is spelled with identifier characters in small letters exactly if it was so before and has no
capital whose dot is kept as a mark. -/
theorem forall_mem_lowerAfter_iff {before s : List Char} (hword : ∀ c ∈ s, isWordChar c = true) :
    (∀ d ∈ lowerAfter before s, isIdentifierChar d = true) ↔
      ∀ c ∈ s, isIdentifierChar c = true ∧ c ≠ 'İ' := by
  induction s generalizing before with
  | nil => simp [lowerAfter]
  | cons c s ih =>
      obtain ⟨hc, hs⟩ := List.forall_mem_cons.mp hword
      rw [lowerAfter, List.forall_mem_append, ih hs, List.forall_mem_cons]
      refine and_congr_left fun _ => ?_
      split
      case isTrue hsigma =>
          rw [beq_iff_eq.mp hsigma]
          obtain ⟨hcapital, hsmall, hfinal⟩ := caseTables.sigma
          refine iff_of_true ?_ ⟨hcapital, by decide⟩
          split
          · simpa using hfinal
          · simpa using hsmall
      case isFalse =>
          constructor
          · intro hlower
            refine ⟨isIdentifierChar_of_lowerChar hc hlower, ?_⟩
            rintro rfl
            exact absurd (List.all_eq_true.mpr hlower) (by simp [caseTables.dotted])
          · rintro ⟨hidentifier, hdot⟩
            exact isIdentifierChar_lowerChar hidentifier hdot

/-! ### Upper case of characters that are not small -/

/-- Only small letters and title letters have an upper case other than themselves. -/
theorem upperChar_eq_self {c : Char} (hlower : isLowerChar c = false) (htitle : isTitleChar c = false) :
    upperChar c = [c] := by
  by_cases hascii : c.toNat < 128
  · exact of_ascii (p := fun c => isLowerChar c = false → upperChar c = [c]) (by decide) hascii hlower
  have hnone : Spans.contain (lowerSpans ++ titleSpans) c = false := by
    rw [Spans.contain_append, Bool.or_eq_false_iff]
    exact ⟨by simpa [isLowerChar, hascii] using hlower, by simpa [isTitleChar, hascii] using htitle⟩
  have hmapped := caseMapped_upperChar hascii
  generalize upperChar c = mapped at hmapped ⊢
  cases hmapped with
  | expansion hentry hcode =>
      have hsmall := Spans.contains_of_covers (caseTables.small_expansion _ hentry) (Span.contains_single _)
      rw [hcode, ← Spans.contain, hnone] at hsmall
      cases hsmall
  | shift hshift hmove =>
      have hsmall := Spans.contains_of_covers (caseTables.small_shift _ hshift) (Shift.of_move? hmove).1
      rw [← Spans.contain, hnone] at hsmall
      cases hsmall
  | self => rfl

/-! ### Digits -/

theorem isDigit_iff {c : Char} (hc : ¬c.toNat < 128) : isDigit c = true ↔ digitSpans.contain c = true := by
  rw [isDigit, if_neg hc, digitSpans, Spans.contain_append]

/-- No digit is the upper case of another character. -/
theorem eq_of_isDigit_of_mem_upperChar {c d : Char} (hd : d ∈ upperChar c) (hdigit : isDigit d = true) : d = c := by
  by_cases hascii : c.toNat < 128
  · have hkept : (upperChar c).all (fun d => !isDigit d || d == c) = true :=
      of_ascii (p := fun c => (upperChar c).all (fun d => !isDigit d || d == c) = true) (by decide) hascii
    simpa [hdigit] using List.all_eq_true.mp hkept d hd
  have hmapped := caseMapped_upperChar hascii
  generalize upperChar c = mapped at hd hmapped
  cases hmapped with
  | expansion hentry hcode =>
      obtain ⟨n, hn, rfl⟩ := List.mem_map.mp hd
      rw [caseTables.digit_expansion _ hentry n hn] at hdigit
      cases hdigit
  | @shift shift d' hshift hmove =>
      obtain ⟨hcontains, rfl⟩ := Shift.of_move? hmove
      obtain rfl := List.mem_singleton.mp hd
      have himage := Shift.contains_image hcontains
      have hcode := eq_toNat_ofNat (by decide) hdigit
      obtain ⟨hapart, hfirst | ⟨-, hcodes⟩⟩ := caseTables.digit_shift shift hshift
      · have hlow := (Span.contains_iff.mp himage).1
        rw [isDigit_iff (by omega), Spans.contain, ← hcode, Spans.not_contains_of_apart hapart himage] at hdigit
        cases hdigit
      · rw [hcodes _ (Span.mem_codes_of_contains himage)] at hdigit
        cases hdigit
  | self => exact List.mem_singleton.mp hd

theorem upperChar_of_isDigit {c : Char} (hdigit : isDigit c = true) : upperChar c = [c] := by
  by_cases hascii : c.toNat < 128
  · exact of_ascii (p := fun c => isDigit c = true → upperChar c = [c]) (by decide) hascii hdigit
  obtain ⟨span, hspan, hcontains⟩ := List.any_eq_true.mp ((isDigit_iff hascii).mp hdigit)
  have hnone : Spans.contain (lowerSpans ++ titleSpans) c = false :=
    Spans.not_contains_of_apart (caseTables.digit_not_small span hspan) hcontains
  rw [Spans.contain_append, Bool.or_eq_false_iff] at hnone
  exact upperChar_eq_self (by rw [isLowerChar, if_neg hascii]; exact hnone.1)
    (by rw [isTitleChar, if_neg hascii]; exact hnone.2)

theorem isDecimal_of_isDigit {c : Char} (hidentifier : isIdentifierChar c = true) (hdigit : isDigit c = true) :
    isDecimal c = true := by
  by_cases hascii : c.toNat < 128
  · rw [isDigit, if_pos hascii] at hdigit
    rwa [isDecimal, if_pos hascii]
  rw [isDigit, if_neg hascii, Bool.or_eq_true] at hdigit
  rw [isDecimal, if_neg hascii]
  obtain hdecimal | hother := hdigit
  · exact hdecimal
  rw [isIdentifierChar_iff hascii, Spans.contain_append, Bool.or_eq_true] at hidentifier
  obtain ⟨span, hspan, hcontains⟩ := List.any_eq_true.mp hother
  rw [Spans.contain, Spans.not_contains_of_apart (caseTables.digit_not_letter span hspan) hcontains] at hidentifier
  simpa using hidentifier

theorem isDigit_of_isDecimal {c : Char} (hdecimal : isDecimal c = true) : isDigit c = true := by
  by_cases hascii : c.toNat < 128
  · rw [isDecimal, if_pos hascii] at hdecimal
    rwa [isDigit, if_pos hascii]
  · rw [isDecimal, if_neg hascii] at hdecimal
    rw [isDigit, if_neg hascii, hdecimal, Bool.true_or]

end GormModels.Text
