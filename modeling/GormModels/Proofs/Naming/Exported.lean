import Mathlib.Data.List.Basic
import GormModels.Naming.GoName
import GormModels.Proofs.Naming.Word
import GormModels.Proofs.Text.Letter

/-!
# Exported names

An exported name is an identifier that starts with a capital letter. The words of a name keep numerals that no
identifier holds, letter case spells some letters with a mark, and most scripts have no capitals; where none of
this is met the name is exported.
-/

namespace GormModels.Naming

open Text

/-- A capital letter, with which exported names start. -/
def isCapitalLetter (c : Char) : Bool := isLetter c && isUpperChar c

/-- The name is an identifier that other packages see. -/
structure IsExported (name : List Char) : Prop where
  head : ∃ c ∈ name.head?, isCapitalLetter c = true
  chars : ∀ c ∈ name, isIdentifierChar c = true

/-- A run of capitals, which stands in a name as it is. -/
def KeptWhole (word : List Char) : Prop := isUpper word = true ∧ 1 < word.length

/-- All characters of the word are of an identifier, and so are those that letter case makes of them: neither
the upper case of its first character nor the lower case of the others is spelled with a mark. -/
structure Spellable (word : List Char) : Prop where
  chars : ∀ c ∈ word, isIdentifierChar c = true
  cases : KeptWhole word ∨
    (∀ c ∈ word.head?, ∀ d ∈ upperChar c, isIdentifierChar d = true) ∧ 'İ' ∉ word.tail

/-- The word starts with a digit or with a character that has a capital letter. -/
def Capitalizable (word : List Char) : Prop :=
  ∀ c ∈ word.head?, isDecimal c = true ∨ ∃ d ∈ (upperChar c).head?, isCapitalLetter d = true

variable {s word : List Char}

theorem ne_nil_of_mem_nameWords (hword : word ∈ nameWords s) : word ≠ [] :=
  ((splits_nameWords s).isNameWord word hword).ne_nil

/-! ### One word -/

theorem initialism_chars : ∀ initialism ∈ initialisms,
    (initialism.toList.all fun c => isIdentifierChar c && c != 'İ') = true := by
  decide

theorem of_isInitialism (hword : isInitialism word = true) : ∀ c ∈ word, isIdentifierChar c = true ∧ c ≠ 'İ' := by
  obtain ⟨initialism, hmem, heq⟩ := List.any_eq_true.mp hword
  rw [← beq_iff_eq.mp heq]
  simpa using List.all_eq_true.mp (initialism_chars initialism hmem)

theorem spellable_of_isInitialism (hword : ∀ c ∈ word, isWordChar c = true)
    (hinitialism : isInitialism (upper word) = true) : Spellable word := by
  have hupper : ∀ c ∈ word, ∀ d ∈ upperChar c, isIdentifierChar d = true ∧ d ≠ 'İ' := fun c hc d hd =>
    of_isInitialism hinitialism d (List.mem_flatMap.mpr ⟨c, hc, hd⟩)
  refine ⟨fun c hc => ?_, .inr ⟨fun c hc d hd => (hupper c (List.mem_of_mem_head? hc) d hd).1, fun hdot => ?_⟩⟩
  · exact isIdentifierChar_of_upperChar (hword c hc) fun d hd => (hupper c hc d hd).1
  · have hself : 'İ' ∈ upperChar 'İ' := by decide
    exact (hupper 'İ' (List.mem_of_mem_tail hdot) 'İ' hself).2 rfl

/-- A word becomes part of an identifier exactly if it is spellable. -/
theorem forall_mem_goWord_iff (hword : ∀ c ∈ word, isWordChar c = true) (hne : word ≠ []) :
    (∀ d ∈ goWord word, isIdentifierChar d = true) ↔ Spellable word := by
  obtain ⟨c, rest, rfl⟩ := List.exists_cons_of_ne_nil hne
  rw [goWord]
  split
  case isTrue hinitialism =>
      exact iff_of_true (fun d hd => (of_isInitialism hinitialism d hd).1)
        (spellable_of_isInitialism hword hinitialism)
  case isFalse =>
      split
      case isTrue hkept =>
          rw [Bool.and_eq_true, decide_eq_true_eq] at hkept
          exact ⟨fun hchars => ⟨hchars, .inl hkept⟩, Spellable.chars⟩
      case isFalse hkept =>
          obtain ⟨hc, hrest⟩ := List.forall_mem_cons.mp hword
          have hlower : (∀ d ∈ lower rest, isIdentifierChar d = true) ↔
              ∀ d ∈ rest, isIdentifierChar d = true ∧ d ≠ 'İ' := forall_mem_lowerAfter_iff hrest
          rw [List.forall_mem_append, List.take_one, List.drop_one, List.tail_cons, hlower]
          constructor
          · rintro ⟨hupper, hlower⟩
            have hfirst : ∀ d ∈ upperChar c, isIdentifierChar d = true := by simpa [upper] using hupper
            refine ⟨?_, .inr ⟨by simpa using hfirst, fun hdot => (hlower _ hdot).2 rfl⟩⟩
            exact List.forall_mem_cons.mpr ⟨isIdentifierChar_of_upperChar hc hfirst, fun d hd => (hlower d hd).1⟩
          · rintro ⟨hchars, hcases⟩
            obtain hwhole | ⟨hfirst, hdot⟩ := hcases
            · exact absurd (by simpa [KeptWhole] using hwhole) hkept
            refine ⟨by simpa [upper] using hfirst, fun d hd => ⟨hchars d (List.mem_cons_of_mem _ hd), ?_⟩⟩
            rintro rfl
            exact hdot hd

theorem head?_goWord (c : Char) (rest : List Char) : (goWord (c :: rest)).head? = (upperChar c).head? := by
  have happend : ∀ others : List Char, (upperChar c ++ others).head? = (upperChar c).head? := fun others =>
    List.head?_append_of_ne_nil _ (upperChar_ne_nil c)
  rw [goWord]
  split
  · exact happend _
  · split
    case isTrue hkept =>
        simp only [isUpper, List.any_cons, Bool.and_eq_true, Bool.not_eq_true', Bool.or_eq_false_iff] at hkept
        rw [upperChar_eq_self hkept.1.2.1.1 hkept.1.2.1.2]
        rfl
    case isFalse =>
        rw [List.take_one, List.head?_cons, Option.toList_some, upper, List.flatMap_singleton]
        exact happend _

/-! ### The whole name -/

/-- A name is exported exactly if all its words are spellable and the first one can start with a capital. -/
theorem isExported_goName_iff (s : List Char) : IsExported (goName s) ↔
    (∀ word ∈ nameWords s, Spellable word) ∧ ∀ word ∈ (nameWords s).head?, Capitalizable word := by
  have hspelled : (∀ d ∈ (nameWords s).flatMap goWord, isIdentifierChar d = true) ↔
      ∀ word ∈ nameWords s, Spellable word := by
    rw [List.forall_mem_flatMap]
    exact forall₂_congr fun word hword =>
      forall_mem_goWord_iff (isWordChar_of_mem_nameWords hword) (ne_nil_of_mem_nameWords hword)
  have hlead : isCapitalLetter digitLead = true ∧ isIdentifierChar digitLead = true := by decide
  cases hwords : nameWords s with
  | nil =>
      rw [goName, hwords, List.flatMap_nil]
      refine iff_of_true ⟨⟨digitLead, rfl, hlead.1⟩, ?_⟩ ?_
      · simpa using hlead.2
      · simp
  | cons word words =>
      obtain ⟨a, tail, rfl⟩ := List.exists_cons_of_ne_nil (ne_nil_of_mem_nameWords (hwords ▸ List.mem_cons_self))
      obtain ⟨c, others, hupper⟩ := List.exists_cons_of_ne_nil (upperChar_ne_nil a)
      have hhead : ((nameWords s).flatMap goWord).head? = some c := by
        have hword : (goWord (a :: tail)).head? = some c := by rw [head?_goWord, hupper, List.head?_cons]
        rw [hwords, List.flatMap_cons, List.head?_append, hword, Option.some_or]
      obtain ⟨rest, hname⟩ := List.head?_eq_some_iff.mp hhead
      have hcapitalizable : Capitalizable (a :: tail) ↔ isDecimal a = true ∨ isCapitalLetter c = true := by
        simp [Capitalizable, hupper]
      have hdigit : isDecimal a = true → c = a := fun hdecimal => by
        rw [upperChar_of_isDigit (isDigit_of_isDecimal hdecimal)] at hupper
        exact (List.cons.inj hupper).1.symm
      have hfirst : (∀ word ∈ (nameWords s).head?, Capitalizable word) ↔ Capitalizable (a :: tail) := by
        simp [hwords]
      rw [goName, hname, ← hwords, hfirst, hcapitalizable]
      dsimp only
      split
      case isTrue hguarded =>
          constructor
          · rintro ⟨-, hchars⟩
            have hspellable := hspelled.mp (hname ▸ (List.forall_mem_cons.mp hchars).2)
            have hself : c = a := eq_of_isDigit_of_mem_upperChar (hupper ▸ List.mem_cons_self) hguarded
            have ha := (hspellable (a :: tail) (hwords ▸ List.mem_cons_self)).chars a List.mem_cons_self
            exact ⟨hspellable, .inl (isDecimal_of_isDigit ha (hself ▸ hguarded))⟩
          · rintro ⟨hspellable, -⟩
            exact ⟨⟨digitLead, rfl, hlead.1⟩, List.forall_mem_cons.mpr ⟨hlead.2, hname ▸ hspelled.mpr hspellable⟩⟩
      case isFalse hguarded =>
          constructor
          · rintro ⟨⟨d, hd, hcapital⟩, hchars⟩
            obtain rfl := Option.some.inj hd
            exact ⟨hspelled.mp (hname ▸ hchars), .inr hcapital⟩
          · rintro ⟨hspellable, hdecimal | hcapital⟩
            · exact absurd (hdigit hdecimal ▸ isDigit_of_isDecimal hdecimal) hguarded
            · exact ⟨⟨c, rfl, hcapital⟩, hname ▸ hspelled.mpr hspellable⟩

/-- A fraction is a numeral and no letter, but it is taken for part of a word. -/
theorem not_isExported_fraction : goName ['a', '½'] = ['A', '½'] ∧ ¬IsExported (goName ['a', '½']) := by
  have hname : goName ['a', '½'] = ['A', '½'] := by decide +kernel
  refine ⟨hname, fun hexported => ?_⟩
  have hhalf : isIdentifierChar '½' = false := by decide +kernel
  rw [hname] at hexported
  rw [hexported.chars '½' (by simp)] at hhalf
  cases hhalf

end GormModels.Naming
