import GormModels.Text.Case

/-!
# Letter case beside underscores and of keywords

The lower case of a character depends on its neighbours only for a capital sigma, and only as far as the next
character that is neither cased nor case-ignorable. An underscore is such a character, so the parts of a text
between underscores are lowered on their own. Some characters have an upper case of several letters, but none
of a few letters alone that keywords are made of.
-/

namespace GormModels.Text

theorem meetsCased_append_underscore (s rest : List Char) :
    meetsCased (s ++ '_' :: rest) = meetsCased s := by
  have hstop : isCaseIgnorable '_' = false := by decide
  have hcased : isCased '_' = false := by decide
  induction s with
  | nil => simp [meetsCased, hstop, hcased]
  | cons c s ih =>
      cases hc : isCaseIgnorable c with
      | true => simpa [meetsCased, hc] using ih
      | false => simp [meetsCased, hc]

theorem lowerAfter_underscore_context (before gone s : List Char) :
    lowerAfter (before ++ '_' :: gone) s = lowerAfter before s := by
  induction s generalizing before with
  | nil => rfl
  | cons c s ih =>
      rw [lowerAfter, lowerAfter, meetsCased_append_underscore, ← List.cons_append, ih]

theorem lowerAfter_append_underscore (before s rest : List Char) :
    lowerAfter before (s ++ '_' :: rest) = lowerAfter before s ++ '_' :: lower rest := by
  induction s generalizing before with
  | nil => exact congrArg ('_' :: ·) (lowerAfter_underscore_context [] before rest)
  | cons c s ih =>
      rw [List.cons_append, lowerAfter, lowerAfter, meetsCased_append_underscore, ih, List.append_assoc]

theorem lower_append_underscore (s rest : List Char) :
    lower (s ++ '_' :: rest) = lower s ++ '_' :: lower rest :=
  lowerAfter_append_underscore [] s rest

theorem lower_intercalate_underscore (parts : List (List Char)) :
    lower (['_'].intercalate parts) = ['_'].intercalate (parts.map lower) := by
  induction parts with
  | nil => rfl
  | cons part parts ih =>
      cases parts with
      | nil => simp
      | cons next parts =>
          simp only [List.map_cons, List.intercalate_cons_cons, List.append_assoc, List.singleton_append] at ih ⊢
          rw [lower_append_underscore, ih]

/-! ### Characters that letter case does not make -/

theorem toNat_of_ofNat_eq {n : Nat} {c : Char} (hc : c ≠ '\x00') (heq : Char.ofNat n = c) : n = c.toNat := by
  by_cases hvalid : n.isValidChar
  · rw [← heq, Char.ofNat, dif_pos hvalid]
    rfl
  · rw [Char.ofNat, dif_neg hvalid] at heq
    exact absurd heq.symm hc

/-- The codes that a shift moves characters to. -/
def Shift.reaches (shift : Shift) (n : Nat) : Bool :=
  shift.target ≤ n && n ≤ shift.target + (shift.span.last - shift.span.first)

theorem reaches_of_move? {shift : Shift} {c d : Char} (hmove : shift.move? c = some d) (hd : d ≠ '\x00') :
    shift.reaches d.toNat = true := by
  rw [Shift.move?] at hmove
  split at hmove
  case isTrue hcontains =>
      have hcode := toNat_of_ofNat_eq hd (Option.some.inj hmove)
      simp only [Span.contains, Bool.and_eq_true, decide_eq_true_eq] at hcontains
      simp only [Shift.reaches, Bool.and_eq_true, decide_eq_true_eq]
      omega
  case isFalse => cases hmove

/-- Codes of which no other character is an upper or a lower case. -/
structure CaseFree (codes : List Nat) : Prop where
  nonzero : 0 ∉ codes
  ascii : ∀ n < 128, n ∉ codes → (Char.ofNat n).toLower.toNat ∉ codes ∧ (Char.ofNat n).toUpper.toNat ∉ codes
  expansions : ∀ entry ∈ lowerExpansions ++ upperExpansions, ∀ n ∈ entry.2, (Char.ofNat n).toNat ∉ codes
  shifts : ∀ shift ∈ lowerShifts ++ upperShifts, ∀ n ∈ codes, shift.reaches n = false
  sigmas : 'ς'.toNat ∉ codes ∧ 'σ'.toNat ∉ codes

theorem caseFree_underscore : CaseFree ['_'.toNat] :=
  ⟨by decide, by decide, by decide +kernel, by decide +kernel, by decide⟩

namespace CaseFree

variable {codes : List Nat} (hfree : CaseFree codes)

include hfree

/-- A character mapped by the tables stays out of the codes. -/
theorem of_mem_mapped {expansions : List (Nat × List Nat)} {shifts : List Shift} {c d : Char}
    (hexpansions : ∀ entry ∈ expansions, entry ∈ lowerExpansions ++ upperExpansions)
    (hshifts : ∀ shift ∈ shifts, shift ∈ lowerShifts ++ upperShifts) (hc : c.toNat ∉ codes)
    (hd : d ∈ match expansions.find? (·.1 == c.toNat) with
      | some (_, codes) => codes.map Char.ofNat
      | none => [(shifts.findSome? fun shift : Shift => shift.move? c).getD c]) : d.toNat ∉ codes := by
  split at hd
  case h_1 code expansion hfound =>
      obtain ⟨n, hn, rfl⟩ := List.mem_map.mp hd
      exact hfree.expansions _ (hexpansions _ (List.mem_of_find?_eq_some hfound)) n hn
  case h_2 =>
      have heq := List.mem_singleton.mp hd
      cases hmoved : shifts.findSome? fun shift : Shift => shift.move? c with
      | none => rwa [heq, hmoved]
      | some moved =>
          rw [hmoved, Option.getD_some] at heq
          obtain ⟨shift, hshift, hmove⟩ := List.exists_of_findSome?_eq_some hmoved
          intro hmem
          rw [heq] at hmem
          have hzero : moved ≠ '\x00' := by
            rintro rfl
            exact hfree.nonzero hmem
          have hreaches := reaches_of_move? hmove hzero
          rw [hfree.shifts shift (hshifts shift hshift) _ hmem] at hreaches
          cases hreaches

theorem of_mem_lowerChar {c d : Char} (hc : c.toNat ∉ codes) (hd : d ∈ lowerChar c) : d.toNat ∉ codes := by
  rw [lowerChar] at hd
  split at hd
  case isTrue hascii =>
      have hlower := (hfree.ascii c.toNat hascii hc).1
      rw [Char.ofNat_toNat] at hlower
      rwa [List.mem_singleton.mp hd]
  case isFalse =>
      exact hfree.of_mem_mapped (fun entry hentry => List.mem_append_left _ hentry)
        (fun shift hshift => List.mem_append_left _ hshift) hc hd

theorem of_mem_upperChar {c d : Char} (hc : c.toNat ∉ codes) (hd : d ∈ upperChar c) : d.toNat ∉ codes := by
  rw [upperChar] at hd
  split at hd
  case isTrue hascii =>
      have hupper := (hfree.ascii c.toNat hascii hc).2
      rw [Char.ofNat_toNat] at hupper
      rwa [List.mem_singleton.mp hd]
  case isFalse =>
      exact hfree.of_mem_mapped (fun entry hentry => List.mem_append_right _ hentry)
        (fun shift hshift => List.mem_append_right _ hshift) hc hd

theorem of_mem_lowerAfter {before s : List Char} (hs : ∀ c ∈ s, c.toNat ∉ codes) :
    ∀ d ∈ lowerAfter before s, d.toNat ∉ codes := by
  induction s generalizing before with
  | nil => simp [lowerAfter]
  | cons c s ih =>
      intro d hd
      rw [lowerAfter, List.mem_append] at hd
      obtain hd | hd := hd
      · split at hd
        · split at hd
          · rw [List.mem_singleton.mp hd]
            exact hfree.sigmas.1
          · rw [List.mem_singleton.mp hd]
            exact hfree.sigmas.2
        · exact hfree.of_mem_lowerChar (hs c List.mem_cons_self) hd
      · exact ih (fun c hc => hs c (List.mem_cons_of_mem _ hc)) d hd

theorem of_mem_lower {s : List Char} (hs : ∀ c ∈ s, c.toNat ∉ codes) : ∀ d ∈ lower s, d.toNat ∉ codes :=
  hfree.of_mem_lowerAfter hs

theorem of_mem_upper {s : List Char} (hs : ∀ c ∈ s, c.toNat ∉ codes) : ∀ d ∈ upper s, d.toNat ∉ codes := by
  intro d hd
  obtain ⟨c, hc, hd⟩ := List.mem_flatMap.mp hd
  exact hfree.of_mem_upperChar (hs c hc) hd

end CaseFree

theorem underscore_not_mem_lower {s : List Char} (hs : '_' ∉ s) : '_' ∉ lower s := by
  intro hmem
  refine caseFree_underscore.of_mem_lower (s := s) ?_ '_' hmem (List.mem_singleton_self _)
  intro c hc heq
  have hself : c = '_' := Char.toNat_inj.mp (List.mem_singleton.mp heq)
  exact hs (hself ▸ hc)

/-! ### ASCII -/

theorem upper_eq_map {s : List Char} (hs : ∀ c ∈ s, c.toNat < 128) : upper s = s.map Char.toUpper := by
  induction s with
  | nil => rfl
  | cons c s ih =>
      obtain ⟨hc, hs⟩ := List.forall_mem_cons.mp hs
      rw [upper, List.flatMap_cons, ← upper, ih hs, upperChar, if_pos hc]
      rfl

theorem lower_eq_map {s : List Char} (hs : ∀ c ∈ s, c.toNat < 128) : lower s = s.map Char.toLower := by
  have hafter : ∀ before, lowerAfter before s = s.map Char.toLower := by
    induction s with
    | nil => exact fun before => rfl
    | cons c s ih =>
        intro before
        obtain ⟨hc, hs⟩ := List.forall_mem_cons.mp hs
        have hsigma : c ≠ 'Σ' := by
          rintro rfl
          exact absurd hc (by decide)
        rw [lowerAfter, ih hs, if_neg (by simpa using hsigma), lowerChar, if_pos hc]
        rfl
  exact hafter []

/-! ### Keywords -/

/-- Letters of which no character has several as its upper case. -/
def soleLetters : List Char := ['A', 'B', 'C', 'E', 'L', 'M', 'O', 'P', 'R', 'T', 'Y']

theorem upperChar_eq_singleton {c : Char} (hc : ∀ d ∈ upperChar c, d ∈ soleLetters) :
    ∃ d, upperChar c = [d] := by
  have hexpansions : ∀ entry ∈ upperExpansions, ∃ code ∈ entry.2, Char.ofNat code ∉ soleLetters := by
    decide +kernel
  rw [upperChar] at hc ⊢
  split
  case isTrue => exact ⟨_, rfl⟩
  case isFalse hascii =>
      rw [if_neg hascii] at hc
      split
      case h_1 code codes hfound =>
          obtain ⟨other, hmem, hother⟩ := hexpansions _ (List.mem_of_find?_eq_some hfound)
          rw [hfound] at hc
          exact absurd (hc _ (List.mem_map_of_mem hmem)) hother
      case h_2 => exact ⟨_, rfl⟩

/-- Nothing but ASCII letters has one of these as its upper case. -/
theorem lt_of_upperChar_eq {c d : Char} (hd : d ∈ soleLetters) (hupper : upperChar c = [d]) : c.toNat < 128 := by
  have hexpansions : ∀ entry ∈ upperExpansions, entry.2.length ≠ 1 := by decide +kernel
  have hshifts : ∀ shift ∈ upperShifts, ∀ n ∈ soleLetters.map Char.toNat, shift.reaches n = false := by
    decide +kernel
  have hnull : '\x00' ∉ soleLetters := by decide
  have hsole : ∀ n ∈ soleLetters.map Char.toNat, n < 128 := by decide
  have hcode : d.toNat ∈ soleLetters.map Char.toNat := List.mem_map_of_mem hd
  refine Decidable.byContradiction fun hascii => ?_
  rw [upperChar, if_neg hascii] at hupper
  split at hupper
  case h_1 code codes hfound =>
      refine hexpansions _ (List.mem_of_find?_eq_some hfound) ?_
      rw [← List.length_map Char.ofNat, hupper]
      rfl
  case h_2 =>
      cases hmoved : upperShifts.findSome? fun shift : Shift => shift.move? c with
      | none =>
          rw [hmoved, Option.getD_none, List.singleton_inj] at hupper
          exact hascii (hupper ▸ hsole _ hcode)
      | some moved =>
          rw [hmoved, Option.getD_some, List.singleton_inj] at hupper
          obtain ⟨shift, hshift, hmove⟩ := List.exists_of_findSome?_eq_some hmoved
          have hreaches := reaches_of_move? (hupper ▸ hmove) (ne_of_mem_of_not_mem hd hnull)
          rw [hshifts shift hshift _ hcode] at hreaches
          cases hreaches

theorem length_eq_of_upper_eq {s word : List Char} (hupper : upper s = word)
    (hword : ∀ c ∈ word, c ∈ soleLetters) : s.length = word.length := by
  induction s generalizing word with
  | nil =>
      subst hupper
      rfl
  | cons c s ih =>
      rw [upper, List.flatMap_cons] at hupper
      obtain ⟨d, hd⟩ : ∃ d, upperChar c = [d] :=
        upperChar_eq_singleton fun e he => hword e (by rw [← hupper]; exact List.mem_append_left _ he)
      rw [hd] at hupper
      subst hupper
      rw [List.length_cons, List.singleton_append, List.length_cons]
      exact congrArg (· + 1) (ih rfl fun e he => hword e (List.mem_cons_of_mem _ he))

end GormModels.Text
