import Mathlib.Data.List.Basic
import GormModels.Naming.GoName
import GormModels.Proofs.Naming.Word
import GormModels.Proofs.Text.Blank
import GormModels.Proofs.Text.Letter

/-!
# Names of names

Put together, the words of a name lose their boundaries: single letters and runs of capitals grow into longer
runs. Splitting the name again gives other words, but each of them is one that a name keeps as it is.
-/

namespace GormModels.Naming

open Text

/-! ### Letter case of ASCII -/

theorem toUpper_of_isCapital {c : Char} (hc : isCapital c = true) : c.toUpper = c :=
  of_ascii (p := fun c => isCapital c = true → c.toUpper = c) (by decide) (lt_of_isCapital hc) hc

theorem isCapital_toUpper {c : Char} (hc : isSmall c = true) : isCapital c.toUpper = true :=
  of_ascii (p := fun c => isSmall c = true → isCapital c.toUpper = true) (by decide) (lt_of_isSmall hc) hc

theorem toLower_of_isSmall {c : Char} (hc : isSmall c = true) : c.toLower = c :=
  of_ascii (p := fun c => isSmall c = true → c.toLower = c) (by decide) (lt_of_isSmall hc) hc

theorem toCase_of_isDigit {c : Char} (hc : c.isDigit = true) : c.toUpper = c ∧ c.toLower = c :=
  of_ascii (p := fun c => c.isDigit = true → c.toUpper = c ∧ c.toLower = c) (by decide) (lt_of_isDigit hc) hc

theorem map_eq_self {f : Char → Char} {s : List Char} (hs : ∀ c ∈ s, f c = c) : s.map f = s := by
  rw [List.map_congr_left hs, List.map_id']

theorem upper_of_capitals {s : List Char} (hs : ∀ c ∈ s, isCapital c = true) : upper s = s := by
  rw [upper_eq_map fun c hc => lt_of_isCapital (hs c hc)]
  exact map_eq_self fun c hc => toUpper_of_isCapital (hs c hc)

theorem lower_of_smalls {s : List Char} (hs : ∀ c ∈ s, isSmall c = true) : lower s = s := by
  rw [lower_eq_map fun c hc => lt_of_isSmall (hs c hc)]
  exact map_eq_self fun c hc => toLower_of_isSmall (hs c hc)

theorem isUpperChar_of_isCapital {c : Char} (hc : isCapital c = true) :
    isUpperChar c = true ∧ isLowerChar c = false ∧ isTitleChar c = false :=
  of_ascii (p := fun c => isCapital c = true → isUpperChar c = true ∧ isLowerChar c = false ∧ isTitleChar c = false)
    (by decide) (lt_of_isCapital hc) hc

theorem isLowerChar_of_isSmall {c : Char} (hc : isSmall c = true) : isLowerChar c = true :=
  of_ascii (p := fun c => isSmall c = true → isLowerChar c = true) (by decide) (lt_of_isSmall hc) hc

/-! ### One word of a name -/

theorem goWord_of_capitals {word : List Char} (hword : ∀ c ∈ word, isCapital c = true) : goWord word = word := by
  rw [goWord, upper_of_capitals hword]
  split
  case isTrue => rfl
  case isFalse =>
      split
      case isTrue => rfl
      case isFalse hshort =>
          match word with
          | [] => rfl
          | [c] =>
              rw [List.take_one, List.head?_cons, Option.toList_some, upper_of_capitals hword]
              rfl
          | c :: d :: rest =>
              have hupper : isUpper (c :: d :: rest) = true := by
                rw [isUpper, Bool.and_eq_true, Bool.not_eq_true', List.any_eq_true, List.any_eq_false]
                refine ⟨⟨c, List.mem_cons_self, (isUpperChar_of_isCapital (hword c List.mem_cons_self)).1⟩, ?_⟩
                intro e he
                simp [isUpperChar_of_isCapital (hword e he)]
              simp [hupper] at hshort

/-- A word that has small letters behind its first character, if anything. -/
theorem goWord_of_smalls {c : Char} {smalls : List Char} (hc : c.toNat < 128)
    (hsmalls : ∀ d ∈ smalls, isSmall d = true) :
    goWord (c :: smalls) =
      if isInitialism (upper (c :: smalls)) = true then upper (c :: smalls) else c.toUpper :: smalls := by
  have hkept : (isUpper (c :: smalls) && decide (1 < (c :: smalls).length)) = false := by
    cases smalls with
    | nil => simp
    | cons d rest => simp [isUpper, isLowerChar_of_isSmall (hsmalls d List.mem_cons_self)]
  have hfirst : upper [c] = [c.toUpper] := upper_eq_map (s := [c]) (by simpa using hc)
  rw [goWord, hkept, if_neg Bool.false_ne_true, List.take_one, List.head?_cons, Option.toList_some, List.drop_one,
    List.tail_cons, hfirst, lower_of_smalls hsmalls]
  rfl

theorem goWord_of_digits {word : List Char} (hword : ∀ c ∈ word, c.isDigit = true) : goWord word = word := by
  have hupper : ∀ s : List Char, (∀ c ∈ s, c.isDigit = true) → upper s = s := by
    intro s hs
    rw [upper_eq_map fun c hc => lt_of_isDigit (hs c hc)]
    exact map_eq_self fun c hc => (toCase_of_isDigit (hs c hc)).1
  have hlower : lower (word.drop 1) = word.drop 1 := by
    have hdrop : ∀ c ∈ word.drop 1, c.isDigit = true := fun c hc => hword c (List.mem_of_mem_drop hc)
    rw [lower_eq_map fun c hc => lt_of_isDigit (hdrop c hc)]
    exact map_eq_self fun c hc => (toCase_of_isDigit (hdrop c hc)).2
  rw [goWord, hupper word hword, hupper (word.take 1) fun c hc => hword c (List.mem_of_mem_take hc), hlower,
    List.take_append_drop]
  split
  · rfl
  · split <;> rfl

/-- A name whose words start with a capital gets nothing put before it. -/
theorem goName_of_isCapital {s rest : List Char} {c : Char} (hs : (nameWords s).flatMap goWord = c :: rest)
    (hc : isCapital c = true) : goName s = c :: rest := by
  have hdigit : isDigit c = false := by
    rw [isDigit, if_pos (lt_of_isCapital hc)]
    exact not_isDigit_of_isCapital hc
  rw [goName, hs]
  simp [hdigit]

/-! ### Settled texts -/

/-- Capitals, digits and capitalized words that are no initialisms, in any order. -/
inductive IsSettled : List Char → Prop
  | nil : IsSettled []
  | cons {c : Char} {rest : List Char} (hc : isCapital c = true ∨ c.isDigit = true) (hrest : IsSettled rest) :
      IsSettled (c :: rest)
  | word {c : Char} {smalls rest : List Char} (hc : isCapital c = true) (hne : smalls ≠ [])
      (hsmalls : ∀ d ∈ smalls, isSmall d = true) (hplain : isInitialism (upper (c :: smalls)) = false)
      (hrest : IsSettled rest) : IsSettled (c :: (smalls ++ rest))

namespace IsSettled

variable {word rest s : List Char}

theorem append (hs : IsSettled s) (hrest : IsSettled rest) : IsSettled (s ++ rest) := by
  induction hs with
  | nil => exact hrest
  | cons hc htail ih => exact .cons hc ih
  | word hc hne hsmalls hplain htail ih =>
      rw [List.cons_append, List.append_assoc]
      exact .word hc hne hsmalls hplain ih

theorem of_forall (hs : ∀ c ∈ s, isCapital c = true ∨ c.isDigit = true) : IsSettled s := by
  induction s with
  | nil => exact .nil
  | cons c s ih =>
      obtain ⟨hc, hs⟩ := List.forall_mem_cons.mp hs
      exact .cons hc (ih hs)

theorem head (hs : IsSettled s) : ∀ c ∈ s.head?, isCapital c = true ∨ c.isDigit = true := by
  cases hs with
  | nil => simp
  | cons hc hrest => simpa using hc
  | word hc hne hsmalls hplain hrest => simpa using Or.inl hc

theorem not_isSmall_head (hs : IsSettled s) : ∀ c ∈ s.head?, isSmall c = false := by
  intro c hc
  obtain hcapital | hdigit := hs.head c hc
  · exact not_isSmall_of_isCapital hcapital
  · exact not_isSmall_of_isDigit hdigit

/-- A word is taken from a settled text by its capital and its small letters, anything else sign by sign. -/
theorem tail {c : Char} (hs : IsSettled (c :: s)) (hend : isCapital c = false ∨ ∀ d ∈ s.head?, isSmall d = false) :
    IsSettled s := by
  cases hs with
  | cons hc hrest => exact hrest
  | @word _ smalls rest hc hne hsmalls hplain hrest =>
      obtain ⟨d, others, rfl⟩ := List.exists_cons_of_ne_nil hne
      have hd := hsmalls d List.mem_cons_self
      simp [hc, hd] at hend

theorem behind_run (hs : IsSettled (word ++ rest)) (hword : ∀ c ∈ word, isSmall c = false)
    (hend : (∀ c ∈ word, isCapital c = false) ∨ ∀ c ∈ rest.head?, isSmall c = false) : IsSettled rest := by
  induction word with
  | nil => exact hs
  | cons c word ih =>
      obtain ⟨-, hword⟩ := List.forall_mem_cons.mp hword
      refine ih (hs.tail ?_) hword (hend.imp_left fun h d hd => h d (List.mem_cons_of_mem c hd))
      obtain hcapital | hrest := hend
      · exact .inl (hcapital c List.mem_cons_self)
      · refine .inr ?_
        cases word with
        | nil => exact hrest
        | cons d word => simpa using hword d List.mem_cons_self

/-- The small letters behind a capital are those of its word. -/
theorem behind_smalls {c : Char} {smalls : List Char} (hs : IsSettled (c :: (smalls ++ rest))) (hne : smalls ≠ [])
    (hsmalls : ∀ d ∈ smalls, isSmall d = true) (hend : ∀ d ∈ rest.head?, isSmall d = false) :
    isInitialism (upper (c :: smalls)) = false ∧ IsSettled rest := by
  generalize hbehind : smalls ++ rest = behind at hs
  cases hs with
  | cons hc hrest =>
      obtain ⟨d, others, rfl⟩ := List.exists_cons_of_ne_nil hne
      subst hbehind
      have hhead := hrest.not_isSmall_head d rfl
      rw [hsmalls d List.mem_cons_self] at hhead
      cases hhead
  | @word _ smalls' rest' hc hne' hsmalls' hplain hrest =>
      -- both runs of small letters go on as far as there are any
      have hrun := takeWhile_append hsmalls hend
      rw [hbehind, takeWhile_append hsmalls' hrest.not_isSmall_head] at hrun
      subst hrun
      exact ⟨hplain, List.append_cancel_left hbehind ▸ hrest⟩

/-- A settled text gives away its first word as it is. -/
theorem of_isCut (hs : IsSettled (word ++ rest)) (hcut : IsCut word rest) : goWord word = word ∧ IsSettled rest := by
  cases hcut with
  -- no small letter follows the capitals, so none of them starts a capitalized word
  | capitals hne hword hrest =>
      refine ⟨goWord_of_capitals hword, hs.behind_run (fun c hc => ?_) (.inr fun c hc => (hrest c hc).2)⟩
      exact not_isSmall_of_isCapital (hword c hc)
  | acronym hne hword hc hd =>
      refine ⟨goWord_of_capitals hword, hs.behind_run (fun c hc => ?_) (.inr ?_)⟩
      · exact not_isSmall_of_isCapital (hword c hc)
      · simpa using not_isSmall_of_isCapital hc
  | @smalls lead smalls _ hlead hne hsmalls hrest =>
      cases lead with
      | none =>
          obtain ⟨c, others, rfl⟩ := List.exists_cons_of_ne_nil hne
          have hhead := hs.not_isSmall_head c rfl
          rw [hsmalls c List.mem_cons_self] at hhead
          cases hhead
      | some c =>
          have hc : isCapital c = true := hlead c rfl
          change IsSettled (c :: (smalls ++ rest)) at hs
          obtain ⟨hplain, hrest⟩ := hs.behind_smalls hne hsmalls hrest
          refine ⟨?_, hrest⟩
          change goWord (c :: smalls) = c :: smalls
          rw [goWord_of_smalls (lt_of_isCapital hc) hsmalls, if_neg (by simp [hplain]), toUpper_of_isCapital hc]
  | digits hne hword hrest =>
      refine ⟨goWord_of_digits hword, hs.behind_run (fun c hc => ?_) (.inl fun c hc => ?_)⟩
      · exact not_isSmall_of_isDigit (hword c hc)
      · exact not_isCapital_of_isDigit (hword c hc)
  | others hne hword hrest =>
      obtain ⟨c, others, rfl⟩ := List.exists_cons_of_ne_nil hne
      have hc := hword c List.mem_cons_self
      obtain hcapital | hdigit := hs.head c rfl
      · rw [(not_letter_of_isOtherWordChar hc).1] at hcapital
        cases hcapital
      · rw [not_isDigit_of_isOtherWordChar hc] at hdigit
        cases hdigit

theorem flatMap_goWord {words : List (List Char)} (hs : IsSettled s) (hsplits : Splits s words) :
    words.flatMap goWord = s := by
  induction hsplits with
  | nil => rfl
  | skip hc hrest ih =>
      have hkept := hs.head _ rfl
      simp only [isKept, Bool.or_eq_false_iff] at hc
      simp [hc] at hkept
  | word hcut hrest ih =>
      obtain ⟨hword, hsettled⟩ := hs.of_isCut hcut
      rw [List.flatMap_cons, hword, ih hsettled]

/-- A settled text that starts with a capital is its own name. -/
theorem goName_eq_self {c : Char} (hs : IsSettled (c :: rest)) (hc : isDigit c = false) :
    goName (c :: rest) = c :: rest := by
  rw [goName, hs.flatMap_goWord (splits_nameWords _)]
  simp [hc]

end IsSettled

theorem not_isOtherWordChar_of_ascii {c : Char} (hc : c.toNat < 128) : isOtherWordChar c = false :=
  of_ascii (p := fun c => isOtherWordChar c = false) (by decide) hc

/-- Small letters behind an ASCII letter become a capitalized word, or capitals where they are an initialism. -/
theorem isSettled_smalls {c : Char} {smalls : List Char} (hc : isCapital c = true ∨ isSmall c = true)
    (hsmalls : ∀ d ∈ smalls, isSmall d = true) : IsSettled (goWord (c :: smalls)) := by
  have hcapital : isCapital c.toUpper = true := by
    obtain hc | hc := hc
    · rwa [toUpper_of_isCapital hc]
    · exact isCapital_toUpper hc
  have hascii : c.toNat < 128 := hc.elim lt_of_isCapital lt_of_isSmall
  have hbehind : ∀ d ∈ smalls, d.toNat < 128 := fun d hd => lt_of_isSmall (hsmalls d hd)
  have hword : ∀ d ∈ c :: smalls, d.toNat < 128 := List.forall_mem_cons.mpr ⟨hascii, hbehind⟩
  have hupper : upper (c.toUpper :: smalls) = upper (c :: smalls) := by
    have hword' : ∀ d ∈ c.toUpper :: smalls, d.toNat < 128 :=
      List.forall_mem_cons.mpr ⟨lt_of_isCapital hcapital, hbehind⟩
    rw [upper_eq_map hword, upper_eq_map hword', List.map_cons, List.map_cons, toUpper_of_isCapital hcapital]
  rw [goWord_of_smalls hascii hsmalls]
  split
  case isTrue =>
      refine .of_forall fun d hd => .inl ?_
      rw [upper_eq_map hword, List.map_cons, List.mem_cons, List.mem_map] at hd
      obtain rfl | ⟨e, he, rfl⟩ := hd
      · exact hcapital
      · exact isCapital_toUpper (hsmalls e he)
  case isFalse hplain =>
      cases smalls with
      | nil => exact .cons (.inl hcapital) .nil
      | cons d others =>
          have hsettled := IsSettled.word hcapital (List.cons_ne_nil d others) hsmalls
            (by rw [hupper]; exact Bool.eq_false_iff.mpr hplain) .nil
          rwa [List.append_nil] at hsettled

theorem isSettled_goWord {word : List Char} (hword : IsNameWord word) (hascii : ∀ c ∈ word, c.toNat < 128) :
    IsSettled (goWord word) := by
  cases hword with
  | capitals hne hword =>
      rw [goWord_of_capitals hword]
      exact .of_forall fun c hc => .inl (hword c hc)
  | @smalls lead smalls hlead hne hsmalls =>
      cases lead with
      | none =>
          obtain ⟨c, others, rfl⟩ := List.exists_cons_of_ne_nil hne
          obtain ⟨hc, hothers⟩ := List.forall_mem_cons.mp hsmalls
          exact isSettled_smalls (.inr hc) hothers
      | some c => exact isSettled_smalls (.inl (hlead c rfl)) hsmalls
  | digits hne hword =>
      rw [goWord_of_digits hword]
      exact .of_forall fun c hc => .inr (hword c hc)
  | others hne hword =>
      obtain ⟨c, others, rfl⟩ := List.exists_cons_of_ne_nil hne
      have hc := hword c List.mem_cons_self
      rw [not_isOtherWordChar_of_ascii (hascii c List.mem_cons_self)] at hc
      cases hc

theorem isSettled_flatMap_goWord {words : List (List Char)} (hwords : ∀ word ∈ words, IsSettled (goWord word)) :
    IsSettled (words.flatMap goWord) := by
  induction words with
  | nil => exact .nil
  | cons word words ih =>
      obtain ⟨hword, hwords⟩ := List.forall_mem_cons.mp hwords
      exact hword.append (ih hwords)

/-- The name of an ASCII text is settled and starts with no digit. -/
theorem exists_goName_eq {s : List Char} (hs : ∀ c ∈ s, c.toNat < 128) :
    ∃ c rest, goName s = c :: rest ∧ IsSettled (c :: rest) ∧ isDigit c = false := by
  have hwords : IsSettled ((nameWords s).flatMap goWord) := by
    have hsplits := splits_nameWords s
    refine isSettled_flatMap_goWord fun word hword => ?_
    refine isSettled_goWord (hsplits.isNameWord word hword) fun c hc => hs c ?_
    have hkept : c ∈ (nameWords s).flatten := List.mem_flatten.mpr ⟨word, hword, hc⟩
    rw [hsplits.flatten_eq] at hkept
    exact List.mem_of_mem_filter hkept
  have hlead : isCapital digitLead = true ∧ isDigit digitLead = false := by decide
  rw [goName]
  split
  case h_1 => exact ⟨digitLead, [], rfl, .cons (.inl hlead.1) .nil, hlead.2⟩
  case h_2 c rest heq =>
      rw [heq] at hwords
      split
      case isTrue => exact ⟨digitLead, c :: rest, rfl, .cons (.inl hlead.1) hwords, hlead.2⟩
      case isFalse hc => exact ⟨c, rest, rfl, hwords, Bool.eq_false_iff.mpr hc⟩

/-- Made once more, the name of an ASCII text stays what it is. -/
theorem goNameText_goNameText {s : String} (hs : ∀ c ∈ s.toList, c.toNat < 128) :
    goNameText (goNameText s) = goNameText s := by
  obtain ⟨c, rest, hname, hsettled, hc⟩ := exists_goName_eq hs
  rw [goNameText, goNameText, String.toList_ofList, hname, hsettled.goName_eq_self hc]

theorem goNameText_goNameText_code : (∀ c ∈ "2fa_i_d".toList, c.toNat < 128) ∧
    goNameText (goNameText "2fa_i_d") = goNameText "2fa_i_d" ∧ goNameText "2fa_i_d" = "X2FaID" := by
  have hascii : ∀ c ∈ "2fa_i_d".toList, c.toNat < 128 := forall_mem_of_all (by decide)
  exact ⟨hascii, goNameText_goNameText hascii, by decide +kernel⟩

end GormModels.Naming
