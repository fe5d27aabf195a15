import Mathlib.Data.List.TakeWhile
import GormModels.Naming.Word

/-!
# Words of identifiers

A word is cut off at the start of a text by one of five rules, and what starts no word is skipped. The words of
a text are told by these two steps alone, so that nothing else looks into how a word's length is counted.
-/

namespace GormModels.Naming

open Text

/-! ### The characters of words -/

theorem not_isCapital_of_isSmall {c : Char} (hc : isSmall c = true) : isCapital c = false := by
  rw [Bool.eq_false_iff]
  intro hcapital
  simp only [isSmall, isCapital, Bool.and_eq_true, decide_eq_true_eq] at hc hcapital
  exact absurd (Char.le_trans hc.1 hcapital.2) (by decide)

theorem not_isSmall_of_isCapital {c : Char} (hc : isCapital c = true) : isSmall c = false := by
  rw [Bool.eq_false_iff]
  intro hsmall
  rw [not_isCapital_of_isSmall hsmall] at hc
  cases hc

theorem not_isCapital_of_isDigit {c : Char} (hc : c.isDigit = true) : isCapital c = false := by
  rw [Bool.eq_false_iff]
  intro hcapital
  simp only [Char.isDigit, isCapital, Bool.and_eq_true, decide_eq_true_eq] at hc hcapital
  exact absurd (Char.le_trans hcapital.1 hc.2) (by decide)

theorem not_isSmall_of_isDigit {c : Char} (hc : c.isDigit = true) : isSmall c = false := by
  rw [Bool.eq_false_iff]
  intro hsmall
  simp only [Char.isDigit, isSmall, Bool.and_eq_true, decide_eq_true_eq] at hc hsmall
  exact absurd (Char.le_trans hsmall.1 hc.2) (by decide)

theorem not_isDigit_of_isCapital {c : Char} (hc : isCapital c = true) : c.isDigit = false := by
  rw [Bool.eq_false_iff]
  intro hdigit
  rw [not_isCapital_of_isDigit hdigit] at hc
  cases hc

theorem lt_of_isDigit {c : Char} (hc : c.isDigit = true) : c.toNat < 128 := by
  simp only [Char.isDigit, Bool.and_eq_true, decide_eq_true_eq, UInt32.le_iff_toNat_le] at hc
  exact lt_of_le_of_lt hc.2 (by decide)

theorem lt_of_isCapital {c : Char} (hc : isCapital c = true) : c.toNat < 128 := by
  simp only [isCapital, Bool.and_eq_true, decide_eq_true_eq, Char.le_def, UInt32.le_iff_toNat_le] at hc
  exact lt_of_le_of_lt hc.2 (by decide)

theorem lt_of_isSmall {c : Char} (hc : isSmall c = true) : c.toNat < 128 := by
  simp only [isSmall, Bool.and_eq_true, decide_eq_true_eq, Char.le_def, UInt32.le_iff_toNat_le] at hc
  exact lt_of_le_of_lt hc.2 (by decide)

theorem isAlphanumeric_of_isAlphanum {c : Char} (hascii : c.toNat < 128) (hc : c.isAlphanum = true) :
    isAlphanumeric c = true := by
  rwa [isAlphanumeric, if_pos hascii]

theorem isAlphanumeric_of_isCapital {c : Char} (hc : isCapital c = true) : isAlphanumeric c = true := by
  have hupper : c.isUpper = true := by
    rw [isCapital, Bool.and_eq_true, decide_eq_true_eq, decide_eq_true_eq] at hc
    exact decide_eq_true hc
  refine isAlphanumeric_of_isAlphanum (lt_of_isCapital hc) ?_
  change (c.isUpper || c.isLower || c.isDigit) = true
  rw [hupper, Bool.true_or, Bool.true_or]

theorem isAlphanumeric_of_isSmall {c : Char} (hc : isSmall c = true) : isAlphanumeric c = true := by
  have hlower : c.isLower = true := hc
  refine isAlphanumeric_of_isAlphanum (lt_of_isSmall hc) ?_
  change (c.isUpper || c.isLower || c.isDigit) = true
  rw [hlower, Bool.or_true, Bool.true_or]

theorem isAlphanumeric_of_isDigit {c : Char} (hc : c.isDigit = true) : isAlphanumeric c = true :=
  isAlphanumeric_of_isAlphanum (lt_of_isDigit hc) ((Bool.or_eq_true _ _).mpr (.inr hc))

theorem isWordChar_of_isAlphanumeric {c : Char} (hc : isAlphanumeric c = true) : isWordChar c = true := by
  rw [isWordChar, hc, Bool.or_true]

theorem isWordChar_of_isOtherWordChar {c : Char} (hc : isOtherWordChar c = true) : isWordChar c = true := by
  simp only [isOtherWordChar, Bool.and_eq_true] at hc
  exact hc.1.1.1.1

theorem not_isDigit_of_isOtherWordChar {c : Char} (hc : isOtherWordChar c = true) : c.isDigit = false := by
  rw [Bool.eq_false_iff]
  intro hdigit
  simp [isOtherWordChar, isDecimal, lt_of_isDigit hdigit, hdigit] at hc

theorem not_letter_of_isOtherWordChar {c : Char} (hc : isOtherWordChar c = true) :
    isCapital c = false ∧ isSmall c = false := by
  simp only [isOtherWordChar, Bool.and_eq_true, Bool.not_eq_true'] at hc
  exact ⟨hc.1.2, hc.2⟩

/-- What stays of a text in its words: ASCII letters and digits, and of the other characters of words those that
are neither decimal digits nor underscores. -/
def isKept (c : Char) : Bool := isCapital c || isSmall c || c.isDigit || isOtherWordChar c

/-! ### Runs -/

variable {s word rest : List Char}

theorem takeWhile_of_head {p : Char → Bool} (hs : ∀ c ∈ s.head?, p c = false) : s.takeWhile p = [] := by
  cases s with
  | nil => rfl
  | cons c s => rw [List.takeWhile_cons_of_neg (by simp [hs c rfl])]

theorem takeWhile_append {p : Char → Bool} (hword : ∀ c ∈ word, p c = true) (hrest : ∀ c ∈ rest.head?, p c = false) :
    (word ++ rest).takeWhile p = word := by
  rw [List.takeWhile_append_of_pos hword, takeWhile_of_head hrest, List.append_nil]

theorem head?_of_forall {p : Char → Prop} (hne : word ≠ []) (hword : ∀ c ∈ word, p c) :
    ∀ c ∈ (word ++ rest).head?, p c := by
  obtain ⟨d, tail, rfl⟩ := List.exists_cons_of_ne_nil hne
  simpa using hword d List.mem_cons_self

theorem forall_head?_append {p : Char → Prop} {mark : Char} (hrest : ∀ c ∈ rest.head?, p c) (hmark : p mark)
    (behind : List Char) : ∀ c ∈ (rest ++ mark :: behind).head?, p c := by
  cases rest with
  | nil => simpa using hmark
  | cons d rest => simpa using hrest d rfl

theorem exists_run {p : Char → Bool} {c : Char} (hc : p c = true) (s : List Char) :
    ∃ run rest, c :: s = run ++ rest ∧ run ≠ [] ∧ (∀ d ∈ run, p d = true) ∧ ∀ d ∈ rest.head?, p d = false := by
  refine ⟨(c :: s).takeWhile p, (c :: s).dropWhile p, List.takeWhile_append_dropWhile.symm, ?_, ?_, ?_⟩
  · rw [List.takeWhile_cons_of_pos hc]
    exact List.cons_ne_nil _ _
  · exact fun d hd => List.mem_takeWhile_imp hd
  · intro d hd
    have hstop := List.head?_dropWhile_not p (c :: s)
    rwa [Option.mem_def.mp hd] at hstop

/-! ### One word -/

/-- A run of characters that make a word. -/
inductive IsNameWord : List Char → Prop
  | capitals {word : List Char} (hne : word ≠ []) (hword : ∀ c ∈ word, isCapital c = true) : IsNameWord word
  | smalls {lead : Option Char} {smalls : List Char} (hlead : ∀ c ∈ lead, isCapital c = true) (hne : smalls ≠ [])
      (hsmalls : ∀ c ∈ smalls, isSmall c = true) : IsNameWord (lead.toList ++ smalls)
  | digits {word : List Char} (hne : word ≠ []) (hword : ∀ c ∈ word, c.isDigit = true) : IsNameWord word
  | others {word : List Char} (hne : word ≠ []) (hword : ∀ c ∈ word, isOtherWordChar c = true) : IsNameWord word

/-- A word is cut off in front of the rest of a text. Of capitals before a small letter the last one starts the
next word. -/
inductive IsCut : (word rest : List Char) → Prop
  | capitals {word rest : List Char} (hne : word ≠ []) (hword : ∀ c ∈ word, isCapital c = true)
      (hrest : ∀ c ∈ rest.head?, isCapital c = false ∧ isSmall c = false) : IsCut word rest
  | acronym {word rest : List Char} {c d : Char} (hne : word ≠ []) (hword : ∀ c ∈ word, isCapital c = true)
      (hc : isCapital c = true) (hd : isSmall d = true) : IsCut word (c :: d :: rest)
  | smalls {lead : Option Char} {smalls rest : List Char} (hlead : ∀ c ∈ lead, isCapital c = true)
      (hne : smalls ≠ []) (hsmalls : ∀ c ∈ smalls, isSmall c = true) (hrest : ∀ c ∈ rest.head?, isSmall c = false) :
      IsCut (lead.toList ++ smalls) rest
  | digits {word rest : List Char} (hne : word ≠ []) (hword : ∀ c ∈ word, c.isDigit = true)
      (hrest : ∀ c ∈ rest.head?, c.isDigit = false) : IsCut word rest
  | others {word rest : List Char} (hne : word ≠ []) (hword : ∀ c ∈ word, isOtherWordChar c = true)
      (hrest : ∀ c ∈ rest.head?, isOtherWordChar c = false) : IsCut word rest

theorem IsNameWord.ne_nil (hword : IsNameWord word) : word ≠ [] := by
  cases hword with
  | smalls hlead hne hsmalls => exact List.append_ne_nil_of_right_ne_nil _ hne
  | capitals hne hword | digits hne hword | others hne hword => exact hne

theorem IsCut.isNameWord (hcut : IsCut word rest) : IsNameWord word := by
  cases hcut with
  | capitals hne hword hrest => exact .capitals hne hword
  | acronym hne hword hc hd => exact .capitals hne hword
  | smalls hlead hne hsmalls hrest => exact .smalls hlead hne hsmalls
  | digits hne hword hrest => exact .digits hne hword
  | others hne hword hrest => exact .others hne hword

theorem IsCut.of_smalls (hne : word ≠ []) (hword : ∀ c ∈ word, isSmall c = true)
    (hrest : ∀ c ∈ rest.head?, isSmall c = false) : IsCut word rest :=
  @IsCut.smalls none word rest (by simp) hne hword hrest

/-- Small letters end a word, as what stands before them decides only where it starts. -/
theorem wordLength_smalls {lead : Option Char} {smalls : List Char} (hlead : ∀ c ∈ lead, isCapital c = true)
    (hne : smalls ≠ []) (hsmalls : ∀ c ∈ smalls, isSmall c = true) (hrest : ∀ c ∈ rest.head?, isSmall c = false) :
    wordLength (lead.toList ++ smalls ++ rest) = (lead.toList ++ smalls).length := by
  have hcapitals : (lead.toList ++ (smalls ++ rest)).takeWhile isCapital = lead.toList :=
    takeWhile_append (by simpa using hlead)
      (head?_of_forall hne fun c hc => not_isCapital_of_isSmall (hsmalls c hc))
  have hlength : smalls.length ≠ 0 := by simpa using hne
  rw [List.append_assoc, wordLength, hcapitals, List.drop_left, takeWhile_append hsmalls hrest, if_neg hlength,
    if_pos (by cases lead <;> simp), List.length_append]

/-- Where no letter stands, digits are counted and then the other characters of words. -/
theorem wordLength_of_not_letter (hs : ∀ c ∈ s.head?, isCapital c = false ∧ isSmall c = false) :
    wordLength s =
      if (s.takeWhile Char.isDigit).length = 0 then (s.takeWhile isOtherWordChar).length
      else (s.takeWhile Char.isDigit).length := by
  have hcapitals : s.takeWhile isCapital = [] := takeWhile_of_head fun c hc => (hs c hc).1
  have hsmalls : s.takeWhile isSmall = [] := takeWhile_of_head fun c hc => (hs c hc).2
  rw [wordLength, hcapitals, List.length_nil, List.drop_zero, hsmalls, if_pos List.length_nil, if_pos rfl]

theorem IsCut.wordLength_eq (hcut : IsCut word rest) : wordLength (word ++ rest) = word.length := by
  cases hcut with
  | capitals hne hword hrest =>
      have hcapitals : (word ++ rest).takeWhile isCapital = word := takeWhile_append hword fun c hc => (hrest c hc).1
      have hsmalls : rest.takeWhile isSmall = [] := takeWhile_of_head fun c hc => (hrest c hc).2
      rw [wordLength, hcapitals, List.drop_left, hsmalls, List.length_nil, if_pos rfl, if_neg (by simpa using hne)]
  | @acronym word rest c d hne hword hc hd =>
      have hcapitals : (word ++ c :: d :: rest).takeWhile isCapital = word ++ [c] := by
        have hlast : ∀ e ∈ word ++ [c], isCapital e = true := by simpa [or_imp, forall_and, hc] using hword
        rw [← List.singleton_append, ← List.append_assoc]
        exact takeWhile_append hlast (by simpa using not_isCapital_of_isSmall hd)
      have hdrop : (word ++ c :: d :: rest).drop (word ++ [c]).length = d :: rest := by
        have hsplit : word ++ c :: d :: rest = (word ++ [c]) ++ d :: rest := by simp
        rw [hsplit, List.drop_left]
      have hlength : 0 < word.length := List.length_pos_iff.mpr hne
      rw [wordLength, hcapitals, hdrop, List.takeWhile_cons_of_pos hd, if_neg (by simp), if_neg (by simp; omega)]
      simp
  | smalls hlead hne hsmalls hrest => exact wordLength_smalls hlead hne hsmalls hrest
  | digits hne hword hrest =>
      have hhead : ∀ c ∈ (word ++ rest).head?, isCapital c = false ∧ isSmall c = false :=
        head?_of_forall hne fun c hc => ⟨not_isCapital_of_isDigit (hword c hc), not_isSmall_of_isDigit (hword c hc)⟩
      have hlength : word.length ≠ 0 := by simpa using hne
      rw [wordLength_of_not_letter hhead, takeWhile_append hword hrest, if_neg hlength]
  | others hne hword hrest =>
      have hhead : ∀ c ∈ (word ++ rest).head?, isCapital c = false ∧ isSmall c = false :=
        head?_of_forall hne fun c hc => not_letter_of_isOtherWordChar (hword c hc)
      have hdigits : (word ++ rest).takeWhile Char.isDigit = [] :=
        takeWhile_of_head (head?_of_forall hne fun c hc => not_isDigit_of_isOtherWordChar (hword c hc))
      rw [wordLength_of_not_letter hhead, hdigits, takeWhile_append hword hrest, if_pos List.length_nil]

theorem IsCut.nameWords_append (hcut : IsCut word rest) : nameWords (word ++ rest) = word :: nameWords rest := by
  have hlength := hcut.wordLength_eq
  obtain ⟨c, tail, rfl⟩ := List.exists_cons_of_ne_nil hcut.isNameWord.ne_nil
  rw [List.cons_append] at hlength ⊢
  rw [nameWords, hlength, List.length_cons]
  simp

theorem nameWords_cons_of_not_isKept {c : Char} (hc : isKept c = false) (rest : List Char) :
    nameWords (c :: rest) = nameWords rest := by
  simp only [isKept, Bool.or_eq_false_iff] at hc
  have hlength : wordLength (c :: rest) = 0 := by
    simp [wordLength, hc]
  rw [nameWords, hlength]

theorem exists_isCut_of_isCapital {c : Char} (hc : isCapital c = true) (s : List Char) :
    ∃ word rest, c :: s = word ++ rest ∧ IsCut word rest := by
  obtain ⟨run, rest, hsplit, hne, hrun, hrest⟩ := exists_run hc s
  cases rest with
  | nil => exact ⟨run, [], hsplit, .capitals hne hrun (by simp)⟩
  | cons d others =>
      have hd : isCapital d = false := hrest d rfl
      by_cases hsmall : isSmall d = true
      · -- the last of the capitals goes with the small letters behind it
        obtain ⟨front, e, rfl⟩ : ∃ front e, run = front ++ [e] := ⟨_, _, (List.dropLast_concat_getLast hne).symm⟩
        have he : isCapital e = true := hrun e (by simp)
        rw [List.append_assoc, List.singleton_append] at hsplit
        by_cases hfront : front = []
        · obtain ⟨smalls, rest, hsmalls, hne, hall, hend⟩ := exists_run hsmall others
          refine ⟨(some e).toList ++ smalls, rest, ?_, .smalls (by simpa using he) hne hall hend⟩
          rw [hsplit, hfront, hsmalls]
          rfl
        · exact ⟨front, e :: d :: others, hsplit, .acronym hfront (fun f hf => hrun f (by simp [hf])) he hsmall⟩
      · exact ⟨run, d :: others, hsplit, .capitals hne hrun (by simpa [hd] using hsmall)⟩

/-- Where a kept character stands a word starts. -/
theorem exists_isCut {c : Char} (hc : isKept c = true) (s : List Char) :
    ∃ word rest, c :: s = word ++ rest ∧ IsCut word rest := by
  simp only [isKept, Bool.or_eq_true] at hc
  obtain ((hcapital | hsmall) | hdigit) | hother := hc
  · exact exists_isCut_of_isCapital hcapital s
  · obtain ⟨run, rest, hsplit, hne, hrun, hrest⟩ := exists_run hsmall s
    exact ⟨run, rest, hsplit, .of_smalls hne hrun hrest⟩
  · obtain ⟨run, rest, hsplit, hne, hrun, hrest⟩ := exists_run hdigit s
    exact ⟨run, rest, hsplit, .digits hne hrun hrest⟩
  · obtain ⟨run, rest, hsplit, hne, hrun, hrest⟩ := exists_run hother s
    exact ⟨run, rest, hsplit, .others hne hrun hrest⟩

/-! ### All words -/

/-- A text falls into words: what starts no word is skipped, and words are cut off one after another. -/
inductive Splits : List Char → List (List Char) → Prop
  | nil : Splits [] []
  | skip {c : Char} {rest : List Char} {words : List (List Char)} (hc : isKept c = false) (hrest : Splits rest words) :
      Splits (c :: rest) words
  | word {word rest : List Char} {words : List (List Char)} (hcut : IsCut word rest) (hrest : Splits rest words) :
      Splits (word ++ rest) (word :: words)

theorem splits_nameWords (s : List Char) : Splits s (nameWords s) := by
  match s with
  | [] =>
      rw [nameWords]
      exact .nil
  | c :: s =>
      by_cases hc : isKept c = true
      · obtain ⟨word, rest, hsplit, hcut⟩ := exists_isCut hc s
        have hshorter : rest.length < s.length + 1 := by
          have hlength := congrArg List.length hsplit
          have hword := List.length_pos_iff.mpr hcut.isNameWord.ne_nil
          rw [List.length_cons, List.length_append] at hlength
          omega
        rw [hsplit, hcut.nameWords_append]
        exact .word hcut (splits_nameWords rest)
      · rw [Bool.not_eq_true] at hc
        rw [nameWords_cons_of_not_isKept hc]
        exact .skip hc (splits_nameWords s)
termination_by s.length

theorem IsNameWord.kept (hword : IsNameWord word) : ∀ c ∈ word, isKept c = true := by
  intro c hc
  cases hword with
  | capitals hne hword => simp [isKept, hword c hc]
  | smalls hlead hne hsmalls =>
      obtain hc | hc := List.mem_append.mp hc
      · simp [isKept, hlead c (by simpa using hc)]
      · simp [isKept, hsmalls c hc]
  | digits hne hword => simp [isKept, hword c hc]
  | others hne hword => simp [isKept, hword c hc]

theorem Splits.flatten_eq {words : List (List Char)} (hsplits : Splits s words) : words.flatten = s.filter isKept := by
  induction hsplits with
  | nil => rfl
  | skip hc hrest ih => rw [ih, List.filter_cons_of_neg (by simp [hc])]
  | word hcut hrest ih =>
      have hkept := List.filter_eq_self.mpr hcut.isNameWord.kept
      rw [List.flatten_cons, ih, List.filter_append, hkept]

theorem Splits.isNameWord {words : List (List Char)} (hsplits : Splits s words) : ∀ word ∈ words, IsNameWord word := by
  induction hsplits with
  | nil => simp
  | skip hc hrest ih => exact ih
  | word hcut hrest ih => exact List.forall_mem_cons.mpr ⟨hcut.isNameWord, ih⟩

theorem IsCut.append_mark {mark : Char} (hmark : isKept mark = false) (hcut : IsCut word rest) (behind : List Char) :
    IsCut word (rest ++ mark :: behind) := by
  simp only [isKept, Bool.or_eq_false_iff] at hmark
  obtain ⟨⟨⟨hcapital, hsmall⟩, hdigit⟩, hother⟩ := hmark
  cases hcut with
  | capitals hne hword hrest => exact .capitals hne hword (forall_head?_append hrest ⟨hcapital, hsmall⟩ behind)
  | acronym hne hword hc hd => exact .acronym hne hword hc hd
  | smalls hlead hne hsmalls hrest => exact .smalls hlead hne hsmalls (forall_head?_append hrest hsmall behind)
  | digits hne hword hrest => exact .digits hne hword (forall_head?_append hrest hdigit behind)
  | others hne hword hrest => exact .others hne hword (forall_head?_append hrest hother behind)

/-- What is on either side of a character that no word keeps is split on its own. -/
theorem nameWords_append_mark {mark : Char} (hmark : isKept mark = false) (s behind : List Char) :
    nameWords (s ++ mark :: behind) = nameWords s ++ nameWords behind := by
  have hsplits := splits_nameWords s
  generalize nameWords s = words at hsplits ⊢
  induction hsplits with
  | nil => exact nameWords_cons_of_not_isKept hmark behind
  | skip hc hrest ih => rw [List.cons_append, nameWords_cons_of_not_isKept hc, ih]
  | word hcut hrest ih =>
      rw [List.append_assoc, (hcut.append_mark hmark behind).nameWords_append, ih, List.cons_append]

theorem nameWords_nil : nameWords [] = [] := by rw [nameWords]

/-- A text that is cut off whole is its only word. -/
theorem IsCut.nameWords_eq (hcut : IsCut word []) : nameWords word = [word] := by
  have hwords := hcut.nameWords_append
  rwa [List.append_nil, nameWords_nil] at hwords

theorem nameWords_intercalate {mark : Char} (hmark : isKept mark = false) (parts : List (List Char)) :
    nameWords ([mark].intercalate parts) = parts.flatMap nameWords := by
  induction parts with
  | nil => exact nameWords_nil
  | cons part parts ih =>
      cases parts with
      | nil => rw [List.intercalate_singleton, List.flatMap_cons, List.flatMap_nil, List.append_nil]
      | cons next parts =>
          rw [List.intercalate_cons_cons, List.append_assoc, List.singleton_append, nameWords_append_mark hmark, ih]
          rfl

/-- Splitting loses and repeats nothing that it keeps, and gives words of the five rules. -/
theorem nameWords_keeps (s : List Char) :
    (nameWords s).flatten = s.filter isKept ∧ ∀ word ∈ nameWords s, IsNameWord word :=
  ⟨(splits_nameWords s).flatten_eq, (splits_nameWords s).isNameWord⟩

example : nameWords "HTTPStatus_code".toList = ["HTTP".toList, "Status".toList, "code".toList] := by decide +kernel

theorem isWordChar_of_isKept {c : Char} (hc : isKept c = true) : isWordChar c = true := by
  simp only [isKept, Bool.or_eq_true] at hc
  obtain ((hcapital | hsmall) | hdigit) | hother := hc
  · exact isWordChar_of_isAlphanumeric (isAlphanumeric_of_isCapital hcapital)
  · exact isWordChar_of_isAlphanumeric (isAlphanumeric_of_isSmall hsmall)
  · exact isWordChar_of_isAlphanumeric (isAlphanumeric_of_isDigit hdigit)
  · exact isWordChar_of_isOtherWordChar hother

theorem isWordChar_of_mem_nameWords (hword : word ∈ nameWords s) : ∀ c ∈ word, isWordChar c = true :=
  fun c hc => isWordChar_of_isKept (((splits_nameWords s).isNameWord word hword).kept c hc)

end GormModels.Naming
