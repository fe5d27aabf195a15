import GormModels.Naming.Plural
import GormModels.Proofs.Naming.NormalForm
import GormModels.Proofs.Naming.SnakeCase

/-!
# Names that lead back to their tables

The name of a struct keeps no underscores, and snake case puts them back where words start. It finds every word
of small letters again unless two initialisms come together, whose capitals are one run.
-/

namespace GormModels.Naming

open Text

/-- A word of small ASCII letters, of two at least. -/
structure IsPlain (word : List Char) : Prop where
  smalls : ∀ c ∈ word, isSmall c = true
  length : 2 ≤ word.length

instance (word : List Char) : Decidable (IsPlain word) :=
  decidable_of_iff (word.all isSmall = true ∧ 2 ≤ word.length)
    ⟨fun h => ⟨List.all_eq_true.mp h.1, h.2⟩, fun h => ⟨List.all_eq_true.mpr h.smalls, h.length⟩⟩

/-- The words with underscores between them, as the name of a table has them. -/
def underscored (words : List (List Char)) : String := .ofList (['_'].intercalate words)

variable {word rest : List Char} {words : List (List Char)}

theorem IsPlain.exists_cons (hplain : IsPlain word) : ∃ c d others, word = c :: d :: others := by
  match word, hplain.length with
  | c :: d :: others, _ => exact ⟨c, d, others, rfl⟩

theorem toLower_toUpper {c : Char} (hc : isSmall c = true) : c.toUpper.toLower = c :=
  of_ascii (p := fun c => isSmall c = true → c.toUpper.toLower = c) (by decide) (lt_of_isSmall hc) hc

theorem upper_of_smalls {s : List Char} (hs : ∀ c ∈ s, isSmall c = true) : upper s = s.map Char.toUpper :=
  upper_eq_map fun c hc => lt_of_isSmall (hs c hc)

theorem isCapital_of_mem_upper {s : List Char} (hs : ∀ c ∈ s, isSmall c = true) :
    ∀ c ∈ upper s, isCapital c = true := by
  rw [upper_of_smalls hs]
  intro c hc
  obtain ⟨d, hd, rfl⟩ := List.mem_map.mp hc
  exact isCapital_toUpper (hs d hd)

/-- A plain word stands in a name all in capitals or capitalized. -/
theorem IsPlain.goWord_cases (hplain : IsPlain word) :
    isInitialism (upper word) = true ∧ goWord word = upper word ∨
      isInitialism (upper word) = false ∧
        ∃ c smalls, word = c :: smalls ∧ smalls ≠ [] ∧ goWord word = c.toUpper :: smalls := by
  obtain ⟨c, d, others, rfl⟩ := hplain.exists_cons
  obtain ⟨hc, hsmalls⟩ := List.forall_mem_cons.mp hplain.smalls
  have hword := goWord_of_smalls (lt_of_isSmall hc) hsmalls
  cases hinitialism : isInitialism (upper (c :: d :: others)) with
  | true => exact .inl ⟨rfl, by rw [hword, if_pos hinitialism]⟩
  | false => exact .inr ⟨rfl, c, d :: others, rfl, List.cons_ne_nil _ _, by rw [hword, if_neg (by simp [hinitialism])]⟩

theorem IsPlain.goWord_chars (hplain : IsPlain word) : ∀ c ∈ goWord word, isCapital c = true ∨ isSmall c = true := by
  intro c hc
  obtain ⟨-, heq⟩ | ⟨-, d, smalls, rfl, -, heq⟩ := hplain.goWord_cases
  · rw [heq] at hc
    exact .inl (isCapital_of_mem_upper hplain.smalls c hc)
  · rw [heq] at hc
    obtain ⟨hd, hsmalls⟩ := List.forall_mem_cons.mp hplain.smalls
    obtain rfl | hc := List.mem_cons.mp hc
    · exact .inl (isCapital_toUpper hd)
    · exact .inr (hsmalls c hc)

theorem IsPlain.lower_goWord (hplain : IsPlain word) : lower (goWord word) = word := by
  have hascii : ∀ c ∈ goWord word, c.toNat < 128 := fun c hc =>
    (hplain.goWord_chars c hc).elim lt_of_isCapital lt_of_isSmall
  rw [lower_eq_map hascii]
  obtain ⟨-, heq⟩ | ⟨-, c, smalls, rfl, -, heq⟩ := hplain.goWord_cases
  · rw [heq, upper_of_smalls hplain.smalls, List.map_map]
    exact map_eq_self fun c hc => toLower_toUpper (hplain.smalls c hc)
  · obtain ⟨hc, hsmalls⟩ := List.forall_mem_cons.mp hplain.smalls
    rw [heq, List.map_cons, toLower_toUpper hc, map_eq_self fun d hd => toLower_of_isSmall (hsmalls d hd)]

/-! ### The words of the name -/

theorem nameWords_of_smalls (hne : word ≠ []) (hsmalls : ∀ c ∈ word, isSmall c = true) : nameWords word = [word] :=
  (IsCut.of_smalls hne hsmalls (by simp)).nameWords_eq

theorem nameWords_underscored (hplain : ∀ word ∈ words, IsPlain word) :
    nameWords (['_'].intercalate words) = words := by
  have hself : ∀ word ∈ words, nameWords word = [word] := by
    intro word hword
    obtain ⟨c, d, others, rfl⟩ := (hplain word hword).exists_cons
    exact nameWords_of_smalls (List.cons_ne_nil _ _) (hplain _ hword).smalls
  have hmark : isKept '_' = false := by decide
  rw [nameWords_intercalate hmark, List.flatMap_congr hself, List.flatMap_singleton']

/-! ### Snake case of the name -/

theorem joinedWords_capitalized {c : Char} {smalls : List Char} (hne : smalls ≠ [])
    (hsmalls : ∀ d ∈ smalls, isSmall d = true) (rest : List Char) :
    joinedWords (c :: (smalls ++ rest)) = c :: smalls ++ (beforeCapital rest ++ joinedWords rest) := by
  have hjoined := joinedWords_smalls_append hne hsmalls rest
  obtain ⟨d, others, rfl⟩ := List.exists_cons_of_ne_nil hne
  have hd : startsWord c d (others ++ rest) = false := startsWord_eq_false (hsmalls d List.mem_cons_self)
  rw [List.cons_append, joinedWords_of_not_startsWord hd, ← List.cons_append, hjoined]
  rfl

/-- Capitals end where a capitalized word starts. -/
theorem joinedWords_capitals {capitals : List Char} (hne : capitals ≠ [])
    (hcapitals : ∀ c ∈ capitals, isCapital c = true)
    (hrest : ∀ b ∈ rest.head?, isCapital b = true ∧ rest.tail.head?.any isSmall = true) :
    joinedWords (capitals ++ rest) = capitals ++ (beforeCapital rest ++ joinedWords rest) := by
  induction capitals with
  | nil => exact absurd rfl hne
  | cons a capitals ih =>
      obtain ⟨ha, hcapitals⟩ := List.forall_mem_cons.mp hcapitals
      cases capitals with
      | nil =>
          cases rest with
          | nil => simp [joinedWords, snakeWords, beforeCapital]
          | cons b rest =>
              obtain ⟨hb, hnext⟩ := hrest b rfl
              have hstarts : startsWord a b rest = true := by simp_all [startsWord]
              simp [joinedWords_of_startsWord hstarts, beforeCapital, hb]
      | cons b capitals =>
          have hnext : (capitals ++ rest).head?.any isSmall = false := by
            cases capitals with
            | cons c capitals => exact not_isSmall_of_isCapital (hcapitals c (by simp))
            | nil =>
                cases rest with
                | nil => rfl
                | cons d rest => exact not_isSmall_of_isCapital (hrest d rfl).1
          have hstarts : startsWord a b (capitals ++ rest) = false := by
            rw [startsWord, not_isSmall_of_isCapital ha, not_isDigit_of_isCapital ha, hnext]
            simp
          rw [List.cons_append, List.cons_append, joinedWords_of_not_startsWord hstarts, ← List.cons_append,
            ih (List.cons_ne_nil _ _) hcapitals]
          rfl

/-- A plain word in a name is a word of its snake case, where the next word can be told from it. -/
theorem IsPlain.joinedWords_append (hplain : IsPlain word) (hrest : ∀ b ∈ rest.head?, isCapital b = true)
    (hnext : isInitialism (upper word) = true → ∀ b ∈ rest.head?, rest.tail.head?.any isSmall = true) :
    joinedWords (goWord word ++ rest) = goWord word ++ (beforeCapital rest ++ joinedWords rest) := by
  obtain ⟨hinitialism, heq⟩ | ⟨-, c, smalls, rfl, hne, heq⟩ := hplain.goWord_cases
  · rw [heq]
    have hends : ∀ b ∈ rest.head?, isCapital b = true ∧ rest.tail.head?.any isSmall = true := fun b hb =>
      ⟨hrest b hb, hnext hinitialism b hb⟩
    refine joinedWords_capitals ?_ (isCapital_of_mem_upper hplain.smalls) hends
    obtain ⟨c, d, others, rfl⟩ := hplain.exists_cons
    rw [upper_of_smalls hplain.smalls]
    exact List.cons_ne_nil _ _
  · rw [heq, List.cons_append]
    exact joinedWords_capitalized hne (fun d hd => hplain.smalls d (List.mem_cons_of_mem _ hd)) rest

/-- A plain word in a name starts with a capital, and goes on with a small letter unless it is an initialism. -/
theorem IsPlain.goWord_head (hplain : IsPlain word) :
    ∃ c others, goWord word = c :: others ∧ isCapital c = true ∧
      (isInitialism (upper word) = false → ∀ rest : List Char, (others ++ rest).head?.any isSmall = true) := by
  obtain ⟨hinitialism, heq⟩ | ⟨-, c, smalls, rfl, hne, heq⟩ := hplain.goWord_cases
  · obtain ⟨c, d, others, rfl⟩ := hplain.exists_cons
    have hcapital := isCapital_of_mem_upper hplain.smalls
    rw [upper_of_smalls hplain.smalls, List.map_cons] at heq hcapital
    refine ⟨_, _, heq, hcapital _ List.mem_cons_self, fun hplain => ?_⟩
    rw [hinitialism] at hplain
    cases hplain
  · obtain ⟨hc, hsmalls⟩ := List.forall_mem_cons.mp hplain.smalls
    obtain ⟨d, others, rfl⟩ := List.exists_cons_of_ne_nil hne
    exact ⟨_, _, heq, isCapital_toUpper hc, fun _ rest => hsmalls d List.mem_cons_self⟩

/-- Of two words that come together one at least is no initialism. -/
def Parted (words : List (List Char)) : Prop :=
  words.IsChain fun a b => ¬(isInitialism (upper a) = true ∧ isInitialism (upper b) = true)

instance (words : List (List Char)) : Decidable (Parted words) := inferInstanceAs (Decidable (words.IsChain _))

theorem joinedWords_flatMap_goWord (hplain : ∀ word ∈ words, IsPlain word) (hparted : Parted words) :
    joinedWords (words.flatMap goWord) = ['_'].intercalate (words.map goWord) := by
  induction words with
  | nil => rfl
  | cons word words ih =>
      obtain ⟨hword, hwords⟩ := List.forall_mem_cons.mp hplain
      cases words with
      | nil =>
          have hjoined : joinedWords (goWord word ++ []) = goWord word ++ (beforeCapital [] ++ joinedWords []) :=
            hword.joinedWords_append (by simp) (by simp)
          simpa [beforeCapital, joinedWords, snakeWords] using hjoined
      | cons next words =>
          obtain ⟨hpair, hparted⟩ := List.isChain_cons_cons.mp hparted
          obtain ⟨c, others, heq, hc, hnext⟩ := (hwords next List.mem_cons_self).goWord_head
          have hbehind : (next :: words).flatMap goWord = c :: (others ++ words.flatMap goWord) := by
            rw [List.flatMap_cons, heq, List.cons_append]
          have hbefore : beforeCapital ((next :: words).flatMap goWord) = ['_'] := by
            rw [beforeCapital, hbehind, List.head?_cons, Option.any_some, if_pos hc]
          -- the next word shows where this one ends: by its capital, and behind an initialism by the letter after it
          have hcapital : ∀ b ∈ ((next :: words).flatMap goWord).head?, isCapital b = true := by
            simpa [hbehind] using hc
          have hsmall : isInitialism (upper word) = true → ∀ b ∈ ((next :: words).flatMap goWord).head?,
              ((next :: words).flatMap goWord).tail.head?.any isSmall = true := by
            intro hinitialism b hb
            have hother : isInitialism (upper next) = false :=
              Bool.eq_false_iff.mpr fun hinitialism' => hpair ⟨hinitialism, hinitialism'⟩
            rw [hbehind, List.tail_cons]
            exact hnext hother _
          have hjoined := hword.joinedWords_append hcapital hsmall
          calc joinedWords ((word :: next :: words).flatMap goWord)
              = goWord word ++ (['_'] ++ ['_'].intercalate ((next :: words).map goWord)) := by
                rw [List.flatMap_cons, hjoined, hbefore, ih hwords hparted]
            _ = ['_'].intercalate ((word :: next :: words).map goWord) := by
                simp only [List.map_cons, List.intercalate_cons_cons, List.append_assoc]

theorem goName_underscored (hne : words ≠ []) (hplain : ∀ word ∈ words, IsPlain word) :
    goName (['_'].intercalate words) = words.flatMap goWord := by
  obtain ⟨word, others, rfl⟩ := List.exists_cons_of_ne_nil hne
  obtain ⟨c, rest, heq, hc, -⟩ := (hplain word List.mem_cons_self).goWord_head
  have hwords := congrArg (List.flatMap goWord) (nameWords_underscored hplain)
  rw [List.flatMap_cons, heq, List.cons_append] at hwords ⊢
  exact goName_of_isCapital hwords hc

theorem snakeCase_flatMap_goWord (hplain : ∀ word ∈ words, IsPlain word) (hparted : Parted words) :
    snakeCase (words.flatMap goWord) = ['_'].intercalate words := by
  have hchars : ∀ c ∈ words.flatMap goWord, isCapital c = true ∨ isSmall c = true := by
    intro c hc
    obtain ⟨word, hword, hc⟩ := List.mem_flatMap.mp hc
    exact (hplain word hword).goWord_chars c hc
  have hunderscore : '_' ∉ words.flatMap goWord := fun hmem => absurd (hchars _ hmem) (by decide)
  have hline : '\n' ∉ words.flatMap goWord := fun hmem => absurd (hchars _ hmem) (by decide)
  rw [snakeCase_eq_intercalate hunderscore hline, ← lower_intercalate_underscore, ← joinedWords,
    joinedWords_flatMap_goWord hplain hparted, lower_intercalate_underscore, List.map_map]
  congr 1
  exact (List.map_congr_left fun word hword => (hplain word hword).lower_goWord).trans (List.map_id _)

/-- Snake case leads from the name of a struct back to the words of its table, so that the table's plural is what
the struct suggests. -/
theorem snakeCaseText_goNameText_underscored (hne : words ≠ []) (hplain : ∀ word ∈ words, IsPlain word)
    (hparted : Parted words) :
    snakeCaseText (goNameText (underscored words)) = underscored words ∧
      conventionalTable (goNameText (underscored words)) = Plural.ofName (underscored words) := by
  have hsnake : snakeCaseText (goNameText (underscored words)) = underscored words := by
    rw [snakeCaseText, goNameText, underscored, String.toList_ofList, String.toList_ofList,
      goName_underscored hne hplain, snakeCase_flatMap_goWord hplain hparted]
  exact ⟨hsnake, by rw [conventionalTable, hsnake]⟩

/-- The words of a table that holds the identifiers of orders. -/
def orderIdItems : List (List Char) := ["order".toList, "id".toList, "items".toList]

theorem snakeCaseText_goNameText_orderIdItems :
    (orderIdItems ≠ [] ∧ (∀ word ∈ orderIdItems, IsPlain word) ∧ Parted orderIdItems) ∧
      goNameText (underscored orderIdItems) = "OrderIDItems" ∧
      snakeCaseText (goNameText (underscored orderIdItems)) = underscored orderIdItems := by
  have hne : orderIdItems ≠ [] := List.cons_ne_nil _ _
  have hplain : ∀ word ∈ orderIdItems, IsPlain word := by decide
  have hparted : Parted orderIdItems := by decide
  exact ⟨⟨hne, hplain, hparted⟩, by decide +kernel, (snakeCaseText_goNameText_underscored hne hplain hparted).1⟩

end GormModels.Naming
