import Mathlib.Data.List.TakeWhile
import Mathlib.Tactic.Tauto
import GormModels.Naming.SnakeCase
import GormModels.Proofs.Naming.Word
import GormModels.Proofs.Text.Case

/-!
# The words of snake case

Snake case is made in three passes over a run of letters and digits. What they come to is said at once by
looking at a character with its neighbours: `startsWord` tells where the underscores go.
-/

namespace GormModels.Naming

open Text

/-- A word starts at a capital behind a small letter or a digit, and at a capital before a small letter. -/
def startsWord (a b : Char) (rest : List Char) : Bool :=
  isCapital b && (isSmall a || a.isDigit || rest.head?.any isSmall)

/-- A run of letters and digits cut where words start. -/
def snakeWords : List Char → List (List Char)
  | a :: b :: rest =>
    if startsWord a b rest then [a] :: snakeWords (b :: rest)
    else match snakeWords (b :: rest) with
      | word :: words => (a :: word) :: words
      | [] => [[a]]
  | s => [s]

theorem snakeWords_ne_nil (s : List Char) : snakeWords s ≠ [] := by
  fun_cases snakeWords s <;> simp [*]

theorem flatten_snakeWords (s : List Char) : (snakeWords s).flatten = s := by
  fun_induction snakeWords s with
  | case1 a b rest hstarts ih => simp [ih]
  | case2 a b rest hstarts word words hwords ih =>
      rw [hwords] at ih
      simpa using ih
  | case3 a b rest hstarts hwords => exact absurd hwords (snakeWords_ne_nil _)
  | case4 s => simp

theorem not_mem_of_mem_snakeWords {s word : List Char} {c : Char} (hc : c ∉ s)
    (hword : word ∈ snakeWords s) : c ∉ word := by
  intro hmem
  rw [← flatten_snakeWords s] at hc
  exact hc (List.mem_flatten.mpr ⟨word, hword, hmem⟩)

theorem ne_nil_of_mem_snakeWords {s word : List Char} (hs : s ≠ []) (hword : word ∈ snakeWords s) : word ≠ [] := by
  fun_induction snakeWords s with
  | case1 a b rest hstarts ih =>
      obtain rfl | hword := List.mem_cons.mp hword
      · exact List.cons_ne_nil a []
      · exact ih (List.cons_ne_nil b rest) hword
  | case2 a b rest hstarts first words hwords ih =>
      obtain rfl | hword := List.mem_cons.mp hword
      · exact List.cons_ne_nil a first
      · exact ih (List.cons_ne_nil b rest) (hwords ▸ List.mem_cons_of_mem first hword)
  | case3 a b rest hstarts hwords => exact absurd hwords (snakeWords_ne_nil _)
  | case4 s => rwa [List.mem_singleton.mp hword]

/-- The words with underscores between them. -/
def joinedWords (s : List Char) : List Char := ['_'].intercalate (snakeWords s)

theorem joinedWords_of_startsWord {a b : Char} {rest : List Char} (h : startsWord a b rest = true) :
    joinedWords (a :: b :: rest) = a :: '_' :: joinedWords (b :: rest) := by
  rw [joinedWords, snakeWords, if_pos h, List.intercalate_cons_of_ne_nil (snakeWords_ne_nil _)]
  rfl

theorem joinedWords_of_not_startsWord {a b : Char} {rest : List Char} (h : startsWord a b rest = false) :
    joinedWords (a :: b :: rest) = a :: joinedWords (b :: rest) := by
  rw [joinedWords, joinedWords, snakeWords, if_neg (by simp [h])]
  split
  case h_1 word words hwords => rw [hwords, List.intercalate_cons_cons_left]
  case h_2 hwords => exact absurd hwords (snakeWords_ne_nil _)

/-- Where no small letter shows that a word starts, what stands before decides. -/
theorem joinedWords_cons_cons {a b : Char} {rest : List Char}
    (h : (isCapital b && rest.head?.any isSmall) = false) :
    joinedWords (a :: b :: rest) =
      if (isSmall a || a.isDigit) && isCapital b then a :: '_' :: joinedWords (b :: rest)
      else a :: joinedWords (b :: rest) := by
  have hstarts : startsWord a b rest = ((isSmall a || a.isDigit) && isCapital b) := by
    rw [startsWord, Bool.and_or_distrib_left, h, Bool.or_false, Bool.and_comm]
  split
  case isTrue hbehind => exact joinedWords_of_startsWord (hstarts.trans hbehind)
  case isFalse hbehind => exact joinedWords_of_not_startsWord (hstarts.trans (Bool.eq_false_iff.mpr hbehind))

/-! ### The three passes -/

theorem startsWord_of_isSmall {a b : Char} {rest : List Char} (ha : isSmall a = true) :
    startsWord a b rest = isCapital b := by
  simp [startsWord, ha]

theorem startsWord_eq_false {a b : Char} {rest : List Char} (hb : isSmall b = true) :
    startsWord a b rest = false := by
  simp [startsWord, not_isCapital_of_isSmall hb]

theorem joinUnderscores_cons {c : Char} (hc : c ≠ '_') (s : List Char) :
    joinUnderscores (c :: s) = c :: joinUnderscores s := by
  rw [joinUnderscores.eq_def]
  split <;> simp_all

theorem joinUnderscores_underscore_cons {c : Char} (hc : c ≠ '_') (s : List Char) :
    joinUnderscores ('_' :: c :: s) = '_' :: joinUnderscores (c :: s) := by
  rw [joinUnderscores.eq_2 _ _ fun d rest heq hrest => hc (List.cons.inj hrest).1]

theorem joinUnderscores_append {s : List Char} (hs : '_' ∉ s) (rest : List Char) :
    joinUnderscores (s ++ rest) = s ++ joinUnderscores rest := by
  induction s with
  | nil => rfl
  | cons c s ih =>
      simp only [List.mem_cons, not_or] at hs
      rw [List.cons_append, joinUnderscores_cons (Ne.symm hs.1), ih hs.2, List.cons_append]

/-- The first pass leaves no two underscores together, so the second one finds nothing to do. -/
theorem joinUnderscores_markCapitalized {s : List Char} (hs : '_' ∉ s) :
    joinUnderscores (markCapitalized s) = markCapitalized s := by
  fun_induction markCapitalized s with
  | case1 a b c rest hmark ih =>
      simp only [List.mem_cons, not_or] at hs
      obtain ⟨ha, hb, hc, hrest⟩ := hs
      have hsmalls : '_' ∉ c :: rest.takeWhile isSmall := by
        simp only [List.mem_cons, not_or]
        exact ⟨hc, fun hmem => hrest ((List.takeWhile_sublist _).mem hmem)⟩
      have htail := ih fun hmem => hrest ((List.dropWhile_sublist _).mem hmem)
      rw [List.cons_append, List.cons_append, List.cons_append, joinUnderscores_cons (Ne.symm ha),
        joinUnderscores_underscore_cons (Ne.symm hb), joinUnderscores_cons (Ne.symm hb),
        joinUnderscores_append hsmalls, htail]
  | case2 a b c rest hmark ih =>
      simp only [List.mem_cons, not_or] at hs
      rw [joinUnderscores_cons (Ne.symm hs.1), ih (by simp [hs.2])]
  | case3 s hshort =>
      have happend := joinUnderscores_append hs []
      simpa [joinUnderscores] using happend

theorem head?_markCapitalized (s : List Char) : (markCapitalized s).head? = s.head? := by
  fun_cases markCapitalized s <;> simp

/-- What goes between a small letter and what follows it. -/
def beforeCapital (rest : List Char) : List Char := if rest.head?.any isCapital then ['_'] else []

theorem markCapitals_smalls_append {smalls : List Char} (hne : smalls ≠ [])
    (hsmalls : ∀ c ∈ smalls, isSmall c = true) (rest : List Char) :
    markCapitals (smalls ++ rest) = smalls ++ (beforeCapital rest ++ markCapitals rest) := by
  induction smalls with
  | nil => exact absurd rfl hne
  | cons a smalls ih =>
      have ha := hsmalls a List.mem_cons_self
      cases smalls with
      | nil =>
          cases rest with
          | nil => simp [markCapitals, beforeCapital]
          | cons b rest => cases hb : isCapital b <;> simp [markCapitals, beforeCapital, ha, hb]
      | cons b smalls =>
          have hb : isCapital b = false := not_isCapital_of_isSmall (hsmalls b (by simp))
          have htail := ih (by simp) fun c hc => hsmalls c (List.mem_cons_of_mem _ hc)
          rw [List.cons_append, List.cons_append, markCapitals, ← List.cons_append, htail]
          simp [hb]

theorem joinedWords_smalls_append {smalls : List Char} (hne : smalls ≠ [])
    (hsmalls : ∀ c ∈ smalls, isSmall c = true) (rest : List Char) :
    joinedWords (smalls ++ rest) = smalls ++ (beforeCapital rest ++ joinedWords rest) := by
  induction smalls with
  | nil => exact absurd rfl hne
  | cons a smalls ih =>
      have ha := hsmalls a List.mem_cons_self
      cases smalls with
      | nil =>
          cases rest with
          | nil => simp [joinedWords, snakeWords, beforeCapital]
          | cons b rest =>
              cases hb : isCapital b with
              | true =>
                  have hstarts : startsWord a b rest = true := by rw [startsWord_of_isSmall ha, hb]
                  simp [joinedWords_of_startsWord hstarts, beforeCapital, hb]
              | false =>
                  have hstarts : startsWord a b rest = false := by rw [startsWord_of_isSmall ha, hb]
                  simp [joinedWords_of_not_startsWord hstarts, beforeCapital, hb]
      | cons b smalls =>
          have hb := hsmalls b (by simp)
          have htail := ih (by simp) fun c hc => hsmalls c (List.mem_cons_of_mem _ hc)
          rw [List.cons_append, List.cons_append, joinedWords_of_not_startsWord (startsWord_eq_false hb),
            ← List.cons_append, htail]
          rfl

theorem markCapitals_underscore {a b c : Char} (hc : isSmall c = true) (s : List Char) :
    markCapitals (a :: '_' :: b :: c :: s) = a :: '_' :: b :: markCapitals (c :: s) := by
  have hunderscore : isCapital '_' = false ∧ isSmall '_' = false ∧ '_'.isDigit = false := by decide
  simp [markCapitals, hunderscore, not_isCapital_of_isSmall hc]

/-- The last pass puts in the underscores that the first one had to leave out. -/
theorem markCapitals_markCapitalized {s : List Char} (hs : '\n' ∉ s) :
    markCapitals (markCapitalized s) = joinedWords s := by
  fun_induction markCapitalized s with
  | case1 a b c rest hmark ih =>
      simp only [Bool.and_eq_true] at hmark
      obtain ⟨⟨-, hb⟩, hc⟩ := hmark
      have hsmalls : ∀ d ∈ c :: rest.takeWhile isSmall, isSmall d = true := by
        rintro d (_ | ⟨_, hd⟩)
        · exact hc
        · exact List.mem_takeWhile_imp hd
      have hrest : '\n' ∉ rest.dropWhile isSmall := by
        simp only [List.mem_cons, not_or] at hs
        exact fun hmem => hs.2.2.2 ((List.dropWhile_sublist _).mem hmem)
      have hstarts : startsWord a b (c :: rest) = true := by simp [startsWord, hb, hc]
      have hsplit : c :: rest = (c :: rest.takeWhile isSmall) ++ rest.dropWhile isSmall := by
        rw [List.cons_append, List.takeWhile_append_dropWhile]
      have hbefore : beforeCapital (markCapitalized (rest.dropWhile isSmall)) =
          beforeCapital (rest.dropWhile isSmall) := by
        rw [beforeCapital, beforeCapital, head?_markCapitalized]
      calc markCapitals (a :: '_' :: b :: (c :: rest.takeWhile isSmall) ++
            markCapitalized (rest.dropWhile isSmall))
          = a :: '_' :: b :: markCapitals ((c :: rest.takeWhile isSmall) ++
              markCapitalized (rest.dropWhile isSmall)) := markCapitals_underscore hc _
        _ = a :: '_' :: b :: ((c :: rest.takeWhile isSmall) ++
              (beforeCapital (rest.dropWhile isSmall) ++ joinedWords (rest.dropWhile isSmall))) := by
            rw [markCapitals_smalls_append (by simp) hsmalls, hbefore, ih hrest]
        _ = a :: '_' :: b :: joinedWords (c :: rest) := by
            rw [hsplit, joinedWords_smalls_append (by simp) hsmalls]
        _ = joinedWords (a :: b :: c :: rest) := by
            rw [joinedWords_of_startsWord hstarts, joinedWords_of_not_startsWord (startsWord_eq_false hc)]
  | case2 a b c rest hmark ih =>
      simp only [List.mem_cons, not_or] at hs
      have htail := ih (by simp [hs.2])
      obtain ⟨tail, hhead⟩ : ∃ tail, markCapitalized (b :: c :: rest) = b :: tail :=
        List.head?_eq_some_iff.mp (by rw [head?_markCapitalized]; rfl)
      have hlast : (isCapital b && isSmall c) = false := by
        simpa [Ne.symm hs.1] using hmark
      rw [hhead] at htail ⊢
      rw [markCapitals, htail]
      exact (joinedWords_cons_cons (by simpa using hlast)).symm
  | case3 s hshort =>
      rcases s with _ | ⟨a, _ | ⟨b, _ | ⟨c, rest⟩⟩⟩
      · rfl
      · rfl
      · have hlast : (isCapital b && ([] : List Char).head?.any isSmall) = false := by simp
        exact (joinedWords_cons_cons hlast).symm
      · exact absurd rfl (hshort a b c rest)

/-- A run of letters and digits in snake case: its words in small letters with underscores between them. -/
theorem snakeCase_eq_intercalate {s : List Char} (hunderscore : '_' ∉ s) (hline : '\n' ∉ s) :
    snakeCase s = ['_'].intercalate ((snakeWords s).map lower) := by
  rw [snakeCase, joinUnderscores_markCapitalized hunderscore, markCapitals_markCapitalized hline, joinedWords,
    lower_intercalate_underscore]

/-! ### The characters of snake case -/

theorem mem_markCapitalized {s : List Char} {c : Char} (hc : c ∈ markCapitalized s) : c = '_' ∨ c ∈ s := by
  fun_induction markCapitalized s with
  | case1 a b d rest hmark ih =>
      rw [← List.takeWhile_append_dropWhile (p := isSmall) (l := rest)]
      simp only [List.mem_cons, List.mem_append] at hc ih ⊢
      tauto
  | case2 a b d rest hmark ih =>
      simp only [List.mem_cons] at hc ih ⊢
      tauto
  | case3 s => exact .inr hc

theorem mem_joinUnderscores {s : List Char} {c : Char} (hc : c ∈ joinUnderscores s) : c ∈ s := by
  fun_induction joinUnderscores s with
  | case1 d rest hcapital ih =>
      simp only [List.mem_cons] at hc ⊢
      tauto
  | case2 d rest hcapital ih =>
      simp only [List.mem_cons] at hc ih ⊢
      tauto
  | case3 d rest hother ih =>
      simp only [List.mem_cons] at hc ⊢
      tauto
  | case4 => exact hc

theorem mem_markCapitals {s : List Char} {c : Char} (hc : c ∈ markCapitals s) : c = '_' ∨ c ∈ s := by
  fun_induction markCapitals s with
  | case1 a b rest hmark ih =>
      simp only [List.mem_cons] at hc ih ⊢
      tauto
  | case2 a b rest hmark ih =>
      simp only [List.mem_cons] at hc ih ⊢
      tauto
  | case3 s => exact .inr hc

end GormModels.Naming
