import GormModels.Go.Package

/-!
# Names that packages may have

A package clause takes an identifier that is neither a keyword nor the blank one. The test for such names lets the
blank identifier pass, and a line feed behind any identifier, even one that is a keyword without it.
-/

namespace GormModels.Go

/-- An ASCII letter or an underscore, and behind it ASCII letters, digits and underscores. -/
def IsIdentifier (s : List Char) : Prop :=
  ∃ first rest, s = first :: rest ∧ (first.isAlpha ∨ first = '_') ∧ ∀ c ∈ rest, c.isAlphanum ∨ c = '_'

/-- A name that may stand in a package clause. -/
structure NamesPackage (name : String) : Prop where
  identifier : IsIdentifier name.toList
  keyword : name ∉ keywords
  blank : name ≠ "_"

theorem isNameStart_iff {c : Char} : isNameStart c = true ↔ c.isAlpha ∨ c = '_' := by
  simp [isNameStart]

theorem isNameChar_iff {c : Char} : isNameChar c = true ↔ c.isAlphanum ∨ c = '_' := by
  simp [isNameChar]

theorem isNameChar_of_isNameStart {c : Char} (hc : isNameStart c = true) : isNameChar c = true := by
  rw [isNameStart_iff] at hc
  rw [isNameChar_iff, Char.isAlphanum, Bool.or_eq_true]
  exact hc.imp_left .inl

theorem isIdentifier_cons_iff {c : Char} {s : List Char} :
    IsIdentifier (c :: s) ↔ isNameStart c = true ∧ ∀ d ∈ s, isNameChar d = true := by
  simp only [isNameStart_iff, isNameChar_iff]
  constructor
  · rintro ⟨first, rest, hsplit, hfirst, hrest⟩
    cases hsplit
    exact ⟨hfirst, hrest⟩
  · rintro ⟨hfirst, hrest⟩
    exact ⟨c, s, rfl, hfirst, hrest⟩

theorem not_isIdentifier_nil : ¬IsIdentifier [] := by
  rintro ⟨first, rest, ⟨⟩, -⟩

theorem isNameChar_of_isIdentifier {s : List Char} (hs : IsIdentifier s) : ∀ c ∈ s, isNameChar c = true := by
  cases s with
  | nil => exact List.forall_mem_nil _
  | cons first rest =>
      obtain ⟨hfirst, hrest⟩ := isIdentifier_cons_iff.mp hs
      exact List.forall_mem_cons.mpr ⟨isNameChar_of_isNameStart hfirst, hrest⟩

theorem exists_identifier_newline_iff {first : Char} {rest : List Char} :
    (∃ s, IsIdentifier s ∧ first :: rest = s ++ ['\n']) ↔
      isNameStart first = true ∧ ∃ s, (∀ c ∈ s, isNameChar c = true) ∧ rest = s ++ ['\n'] := by
  constructor
  · rintro ⟨s, hs, hsplit⟩
    cases s with
    | nil => exact absurd hs not_isIdentifier_nil
    | cons c s =>
        obtain ⟨rfl, hrest⟩ := List.cons.inj hsplit
        obtain ⟨hfirst, hs⟩ := isIdentifier_cons_iff.mp hs
        exact ⟨hfirst, s, hs, hrest⟩
  · rintro ⟨hfirst, s, hs, rfl⟩
    exact ⟨first :: s, isIdentifier_cons_iff.mpr ⟨hfirst, hs⟩, rfl⟩

theorem isPackageName_eq_true_iff {name : String} :
    isPackageName name = true ↔
      (IsIdentifier name.toList ∨ ∃ s, IsIdentifier s ∧ name.toList = s ++ ['\n']) ∧ name ∉ keywords := by
  rw [isPackageName, Bool.and_eq_true, decide_eq_true_eq]
  refine and_congr_left' ?_
  cases name.toList with
  | nil => simp [not_isIdentifier_nil]
  | cons first rest =>
      rw [isIdentifier_cons_iff, exists_identifier_newline_iff, ← and_or_left]
      dsimp only
      rw [Bool.and_eq_true]
      refine and_congr_right' ?_
      -- A line feed at the end is taken off before the characters are looked at.
      split
      case h_1 chars hreverse =>
          obtain rfl := List.reverse_eq_cons_iff.mp hreverse
          have hnewline : ¬∀ c ∈ chars.reverse ++ ['\n'], isNameChar c = true :=
            fun hall => absurd (hall '\n' (by simp)) (by decide)
          rw [or_iff_right hnewline]
          simp
      case h_2 hline =>
          have hend : ∀ s, rest ≠ s ++ ['\n'] := by
            rintro s rfl
            exact hline s.reverse (by simp)
          simp [hend]

/-- The names that pass the test are those that packages may have, the blank identifier, and identifiers with a line
feed behind them. -/
theorem isPackageName_iff_namesPackage {name : String} :
    isPackageName name = true ↔
      NamesPackage name ∨ name = "_" ∨ ∃ s : String, IsIdentifier s.toList ∧ name = s ++ "\n" := by
  have hnewline : (∃ s, IsIdentifier s ∧ name.toList = s ++ ['\n']) ↔
      ∃ s : String, IsIdentifier s.toList ∧ name = s ++ "\n" := by
    constructor
    · rintro ⟨s, hs, hname⟩
      refine ⟨.ofList s, by rwa [String.toList_ofList], String.toList_injective ?_⟩
      rw [hname, String.toList_append, String.toList_ofList]
      rfl
    · rintro ⟨s, hs, rfl⟩
      exact ⟨s.toList, hs, String.toList_append ..⟩
  have hblank : IsIdentifier "_".toList ∧ "_" ∉ keywords := ⟨⟨'_', [], rfl, .inr rfl, by simp⟩, by decide⟩
  have hkeywords : ∀ keyword ∈ keywords, '\n' ∉ keyword.toList := by decide
  rw [isPackageName_eq_true_iff, hnewline]
  constructor
  · rintro ⟨hidentifier | hended, hkeyword⟩
    · by_cases hname : name = "_"
      · exact .inr (.inl hname)
      · exact .inl ⟨hidentifier, hkeyword, hname⟩
    · exact .inr (.inr hended)
  · rintro (hname | rfl | ⟨s, hs, rfl⟩)
    · exact ⟨.inl hname.identifier, hname.keyword⟩
    · exact ⟨.inl hblank.1, hblank.2⟩
    · exact ⟨.inr ⟨s, hs, rfl⟩, fun hkeyword => hkeywords _ hkeyword (by simp)⟩

end GormModels.Go
