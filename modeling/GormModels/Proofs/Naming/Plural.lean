import Mathlib.Data.List.TakeWhile
import GormModels.Naming.Plural
import GormModels.Proofs.Naming.Inflection

/-!
# Single words have plurals

A text has no plural when it is blank where a word is needed or when the noun of a compound is none. Neither can be
said of a single word.
-/

namespace GormModels

open Text

/-! ### Texts of one word -/

theorem split_of_not_mem {sep : Char} {s : List Char} (hsep : sep ∉ s) : split sep s = [s] := by
  induction s with
  | nil => rfl
  | cons c s ih =>
      simp only [List.mem_cons, not_or] at hsep
      have hne : (c == sep) = false := beq_eq_false_iff_ne.mpr (Ne.symm hsep.1)
      rw [split, ih hsep.2]
      simp [hne]

theorem split_ne_nil (sep : Char) (s : List Char) : split sep s ≠ [] := by
  cases s with
  | nil => simp [split]
  | cons c s =>
      rw [split]
      split
      · simp
      · split <;> simp

theorem trim_of_not_blank {s : List Char} (hs : ∀ c ∈ s, isBlank c = false) : trim s = s := by
  have hleft : ∀ t : List Char, (∀ c ∈ t, isBlank c = false) → t.dropWhile isBlank = t := by
    intro t ht
    cases t with
    | nil => rfl
    | cons c t => rw [List.dropWhile_cons, if_neg (by simp [ht c List.mem_cons_self])]
  rw [trim, trimLeft, hleft s hs, trimRight, hleft s.reverse (by simpa using hs), List.reverse_reverse]

theorem words_of_not_blank {s : List Char} (hne : s ≠ []) (hs : ∀ c ∈ s, isBlank c = false) :
    words s = [s] := by
  obtain ⟨c, rest, rfl⟩ := List.exists_cons_of_ne_nil hne
  have hrest : ∀ d ∈ rest, isBlank d = false := fun d hd => hs d (List.mem_cons_of_mem _ hd)
  have htake : rest.takeWhile (!isBlank ·) = rest := by
    rw [List.takeWhile_eq_self_iff]
    simpa using hrest
  have hdrop : rest.dropWhile (!isBlank ·) = [] := by
    rw [List.dropWhile_eq_nil_iff]
    simpa using hrest
  have hnil : words [] = [] := by
    rw [words]
    rfl
  rw [words]
  split
  case h_1 htrim =>
      rw [trimLeft_of_head (hs c List.mem_cons_self)] at htrim
      cases htrim
  case h_2 d others htrim =>
      rw [trimLeft_of_head (hs c List.mem_cons_self)] at htrim
      obtain ⟨rfl, rfl⟩ := List.cons.inj htrim
      rw [htake, hdrop, hnil]

namespace Naming.Plural

theorem joined?_of_not_mem {sep : Char} {s : List Char} (hsep : sep ∉ s) : joined? sep s = none := by
  rw [joined?, split_of_not_mem hsep]
  rfl

section

variable {s : List Char} (hs : Solid s)

include hs

theorem words_of_solid (hne : s ≠ []) : words s = [s] :=
  words_of_not_blank hne fun c hc => isBlank_eq_false (hs c hc)

/-- A joining word stands between other words. -/
theorem compound?_of_solid (hne : s ≠ []) : compound? s = none := by
  rw [compound?, words_of_solid hs hne]
  rfl

theorem goesOn_of_solid (adjective : String) : goesOn adjective s = false := by
  cases s with
  | nil => rfl
  | cons c rest =>
      have hc := hs c List.mem_cons_self
      have hblank := isBlank_eq_false hc
      have hhyphen := not_hyphen hc
      unfold goesOn
      split
      · rename_i heq
        exact absurd (List.cons.inj heq).1 hhyphen
      · rename_i heq
        rw [← (List.cons.inj heq).1, hblank, Bool.false_and]
      · rfl

/-- Letter case taken character by character, of which only the first counts. -/
theorem solid_small : Solid (s.flatMap fun c => (lowerChar c).take 1) := by
  intro d hd
  obtain ⟨c, hc, hd⟩ := List.mem_flatMap.mp hd
  exact caseFree_partingCodes.of_mem_lowerChar (hs c hc) (List.mem_of_mem_take hd)

theorem postfixed?_of_solid : postfixed? s = none := by
  have hsmall := solid_small hs
  have hbehind : ∀ n adjective,
      goesOn adjective ((s.flatMap fun c => (lowerChar c).take 1).drop n) = false := fun n adjective =>
    goesOn_of_solid (hsmall.sublist fun c hc => List.mem_of_mem_drop hc) adjective
  have hgenerals : (List.range (s.takeWhile (!isBlank ·)).length).filter (fun n =>
      goesOn "general" ((s.flatMap fun c => (lowerChar c).take 1).drop (n + 1))) = [] := by
    simp [hbehind]
  unfold postfixed?
  dsimp only
  rw [hgenerals, List.getLast?_nil, ite_self]
  simp [hbehind]

/-- No phrase of several words is found in a single one. -/
theorem isPrefixOf_of_mem_cuts (phrase : String) (hphrase : ∃ c ∈ phrase.toList, c.toNat ∈ partingCodes)
    {cut : List Char × List Char} (hcut : cut ∈ cuts s) : phrase.toList.isPrefixOf cut.2 = false := by
  obtain ⟨c, hc, hparting⟩ := hphrase
  obtain ⟨n, -, rfl⟩ := List.mem_map.mp hcut
  rw [← Bool.not_eq_true, List.isPrefixOf_iff_prefix]
  intro hstarts
  exact hs c (List.mem_of_mem_drop (hstarts.subset hc)) hparting

theorem dual?_of_solid : dual? s = none := by
  have hnone : (cuts (lower s)).any (fun cut =>
      " a ".toList.isPrefixOf cut.2 || "-a-".toList.isPrefixOf cut.2) = false := by
    rw [List.any_eq_false]
    intro cut hcut
    rw [isPrefixOf_of_mem_cuts hs.lower " a " ⟨' ', by decide, by decide⟩ hcut,
      isPrefixOf_of_mem_cuts hs.lower "-a-" ⟨'-', by decide, by decide⟩ hcut]
    decide
  unfold dual?
  dsimp only
  rw [hnone]
  rfl

theorem rate?_of_solid : rate? s = none := by
  have hnone : (cuts (lower s)).reverse.find? (fun cut => !cut.1.isEmpty &&
      ([" per ", " a "].any fun w => w.toList.isPrefixOf cut.2 && w.length < cut.2.length)) = none := by
    rw [List.find?_eq_none]
    intro cut hcut
    rw [List.mem_reverse] at hcut
    simp only [List.any_cons, List.any_nil,
      isPrefixOf_of_mem_cuts hs.lower " per " ⟨' ', by decide, by decide⟩ hcut,
      isPrefixOf_of_mem_cuts hs.lower " a " ⟨' ', by decide, by decide⟩ hcut]
    simp
  unfold rate?
  dsimp only
  rw [hnone]
  rfl

/-! ### Plurals of single words -/

theorem stem?_of_solid (hne : s ≠ []) (fuel : Nat) : ∃ stem, stem? fuel s = .ok stem := by
  cases fuel with
  | zero => exact ⟨none, rfl⟩
  | succ fuel =>
      have hlower := hs.lower
      rw [stem?]
      simp only [words_of_solid hs hne, compound?_of_solid hs hne, joined?_of_not_mem hlower.space_not_mem,
        joined?_of_not_mem hlower.hyphen_not_mem, Option.or_none]
      rw [if_neg (by simp [hne]), if_neg (by simp)]
      repeat' apply Attempt.succeeds_ite
      all_goals exact ⟨_, rfl⟩

theorem rawPlural_of_solid (hne : s ≠ []) (fuel : Nat) : ∃ plural, rawPlural fuel s = .ok plural := by
  cases fuel with
  | zero => exact ⟨s, rfl⟩
  | succ fuel =>
      rw [rawPlural]
      simp only [words_of_solid hs hne, compound?_of_solid hs hne, postfixed?_of_solid hs, dual?_of_solid hs,
        rate?_of_solid hs, joined?_of_not_mem hs.lower.hyphen_not_mem, List.length_nil, bne_self_eq_false,
        Bool.false_and, Bool.false_eq_true, if_false]
      rw [if_neg (by simp [hne]), if_neg (by simp)]
      repeat' apply Attempt.succeeds_ite
      all_goals exact ⟨_, rfl⟩

omit hs in
theorem chosenWords_ne_nil : chosenWords s ≠ [] := by
  unfold chosenWords
  split
  · split
    · exact split_ne_nil ' ' _
    · simp [split_ne_nil]
  · exact split_ne_nil ' ' s

/-- A single word gives its letter case to the first word of another form. -/
theorem mendCases_of_solid (other : List Char) : ∃ mended, mendCases s other = .ok mended := by
  obtain ⟨first, rest, hwords⟩ := List.exists_cons_of_ne_nil (chosenWords_ne_nil (s := other))
  rw [mendCases, split_of_not_mem hs.space_not_mem, hwords]
  exact ⟨_, rfl⟩

theorem isKept_of_solid (hne : s ≠ []) : isKept s = .ok false := by
  have htrim := trim_of_not_blank fun c hc => isBlank_eq_false (hs c hc)
  simp [isKept, htrim, hne, hs.newline_not_mem]

theorem isPlural_of_solid (hne : s ≠ []) : ∃ b, isPlural s = .ok b := by
  have htrim := trim_of_not_blank fun c hc => isBlank_eq_false (hs c hc)
  obtain ⟨stem, hstem⟩ := stem?_of_solid hs hne (s.length + 1)
  rw [isPlural, isKept_of_solid hs hne]
  simp only [Attempt.ok_bind, htrim, hstem]
  cases stem with
  | none => exact ⟨_, rfl⟩
  | some stem =>
      obtain ⟨mended, hmended⟩ := mendCases_of_solid hs stem
      simp only [hmended, Attempt.ok_bind]
      exact ⟨_, rfl⟩

theorem plural_of_solid (hne : s ≠ []) : ∃ p, plural s = .ok p := by
  have htrim := trim_of_not_blank fun c hc => isBlank_eq_false (hs c hc)
  obtain ⟨raw, hraw⟩ := rawPlural_of_solid hs hne (s.length + 1)
  obtain ⟨mended, hmended⟩ := mendCases_of_solid hs raw
  rw [plural, isKept_of_solid hs hne]
  simp only [Attempt.ok_bind, htrim, hraw, hmended]
  exact ⟨_, rfl⟩

end

instance : LawfulInflection where
  isPlural_succeeds hne hs := isPlural_of_solid hs hne
  plural_succeeds hne hs := plural_of_solid hs hne

end Naming.Plural

end GormModels
