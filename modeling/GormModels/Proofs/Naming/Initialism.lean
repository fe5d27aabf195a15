import GormModels.Proofs.Naming.RoundTrip

/-!
# Initialisms in names

A name shows an initialism in capitals however it is written, as long as it is one word when the name is split. One
of letters alone is. The digit of UTF8 is a word of its own, and the letters before it are no initialism, so they
stay capitals only where they are written so.
-/

namespace GormModels.Naming

open Text

/-- The ways to write an initialism: in capitals, in small letters and capitalized. -/
def spellings (initialism : List Char) : List (List Char) :=
  [upper initialism, lower initialism, Plural.capitalize initialism]

/-- The word is one of the initialisms, however it is written. -/
def SpellsInitialism (word : List Char) : Prop := ∃ initialism ∈ initialisms, word ∈ spellings initialism.toList

instance (word : List Char) : Decidable (SpellsInitialism word) :=
  inferInstanceAs (Decidable (∃ initialism ∈ initialisms, word ∈ spellings initialism.toList))

/-- The spellings whose letters, parted from the digit, are neither an initialism nor all in capitals. -/
def brokenSpellings : List (List Char) := ["utf8".toList, "Utf8".toList]

/-- What a name shows where an initialism is written. -/
def shownSpelling (word : List Char) : List Char :=
  if word ∈ brokenSpellings then "Utf8".toList else upper word

variable {word : List Char} {words : List (List Char)}

/-! ### Initialisms of letters -/

theorem toUpper_toLower {c : Char} (hc : isCapital c = true) : c.toLower.toUpper = c :=
  of_ascii (p := fun c => isCapital c = true → c.toLower.toUpper = c) (by decide) (lt_of_isCapital hc) hc

theorem isSmall_toLower {c : Char} (hc : isCapital c = true) : isSmall c.toLower = true :=
  of_ascii (p := fun c => isCapital c = true → isSmall c.toLower = true) (by decide) (lt_of_isCapital hc) hc

theorem nameWords_of_letter_smalls {c : Char} {smalls : List Char} (hc : isCapital c = true ∨ isSmall c = true)
    (hne : smalls ≠ []) (hsmalls : ∀ d ∈ smalls, isSmall d = true) : nameWords (c :: smalls) = [c :: smalls] := by
  obtain hc | hc := hc
  · have hcut : IsCut ((some c).toList ++ smalls) [] := .smalls (by simpa using hc) hne hsmalls (by simp)
    exact hcut.nameWords_eq
  · exact nameWords_of_smalls (List.cons_ne_nil c smalls) (List.forall_mem_cons.mpr ⟨hc, hsmalls⟩)

/-- Small letters behind a letter are one word, and a name has an initialism that they spell in capitals. -/
theorem flatMap_goWord_of_letter_smalls {c : Char} {rest : List Char} (hc : isCapital c = true ∨ isSmall c = true)
    (hne : rest ≠ []) (hrest : ∀ d ∈ rest, isCapital d = true) (hinitialism : isInitialism (c.toUpper :: rest) = true) :
    upper (c :: rest.map Char.toLower) = c.toUpper :: rest ∧
      (nameWords (c :: rest.map Char.toLower)).flatMap goWord = c.toUpper :: rest := by
  have hsmalls : ∀ d ∈ rest.map Char.toLower, isSmall d = true := by
    intro d hd
    obtain ⟨e, he, rfl⟩ := List.mem_map.mp hd
    exact isSmall_toLower (hrest e he)
  have hascii : c.toNat < 128 := hc.elim lt_of_isCapital lt_of_isSmall
  have hletters : ∀ d ∈ c :: rest.map Char.toLower, d.toNat < 128 :=
    List.forall_mem_cons.mpr ⟨hascii, fun d hd => lt_of_isSmall (hsmalls d hd)⟩
  have hupper : upper (c :: rest.map Char.toLower) = c.toUpper :: rest := by
    have hback : ∀ d ∈ rest, (Char.toUpper ∘ Char.toLower) d = d := fun d hd => toUpper_toLower (hrest d hd)
    rw [upper_eq_map hletters, List.map_cons, List.map_map, map_eq_self hback]
  refine ⟨hupper, ?_⟩
  rw [nameWords_of_letter_smalls hc (by simpa using hne) hsmalls, List.flatMap_singleton,
    goWord_of_smalls hascii hsmalls, hupper, if_pos hinitialism]

theorem spellings_of_capitals {c : Char} {rest : List Char} (hc : isCapital c = true)
    (hrest : ∀ d ∈ rest, isCapital d = true) : spellings (c :: rest) =
      [c :: rest, c.toLower :: rest.map Char.toLower, c :: rest.map Char.toLower] := by
  have hs : ∀ d ∈ c :: rest, isCapital d = true := List.forall_mem_cons.mpr ⟨hc, hrest⟩
  have hfirst : upper [c] = [c] := upper_of_capitals (by simpa using hc)
  have hlower : ∀ s : List Char, (∀ d ∈ s, isCapital d = true) → lower s = s.map Char.toLower := fun s hs =>
    lower_eq_map fun d hd => lt_of_isCapital (hs d hd)
  rw [spellings, upper_of_capitals hs, hlower _ hs, Plural.capitalize, List.take_one, List.head?_cons,
    Option.toList_some, hfirst, List.drop_one, List.tail_cons, hlower _ hrest]
  rfl

/-- An initialism of letters is one word in each of its spellings, and a name has it in capitals. -/
theorem flatMap_goWord_of_mem_spellings {s : List Char} (hs : ∀ c ∈ s, isCapital c = true) (hlong : 2 ≤ s.length)
    (hinitialism : isInitialism s = true) (hword : word ∈ spellings s) :
    upper word = s ∧ (nameWords word).flatMap goWord = s := by
  match s, hlong with
  | c :: d :: rest, _ =>
  obtain ⟨hc, hrest⟩ := List.forall_mem_cons.mp hs
  have hbehind : ∀ first, (isCapital first = true ∨ isSmall first = true) → first.toUpper = c →
      upper (first :: (d :: rest).map Char.toLower) = c :: d :: rest ∧
        (nameWords (first :: (d :: rest).map Char.toLower)).flatMap goWord = c :: d :: rest := by
    rintro first hfirst rfl
    exact flatMap_goWord_of_letter_smalls hfirst (List.cons_ne_nil d rest) hrest hinitialism
  rw [spellings_of_capitals hc hrest] at hword
  simp only [List.mem_cons, List.not_mem_nil, or_false] at hword
  obtain rfl | rfl | rfl := hword
  · refine ⟨upper_of_capitals hs, ?_⟩
    rw [(IsCut.capitals (List.cons_ne_nil _ _) hs (by simp)).nameWords_eq, List.flatMap_singleton,
      goWord_of_capitals hs]
  · exact hbehind c.toLower (.inr (isSmall_toLower hc)) (toUpper_toLower hc)
  · exact hbehind c (.inl hc) (toUpper_of_isCapital hc)

/-! ### All initialisms -/

/-- What the table says: an initialism is of letters, two at least, but for the one with a digit. -/
theorem initialism_cases : ∀ initialism ∈ initialisms, initialism = "UTF8" ∨
    2 ≤ initialism.toList.length ∧ initialism.toList.all isCapital = true ∧ isInitialism initialism.toList = true := by
  decide +kernel

namespace SpellsInitialism

theorem flatMap_goWord (hword : SpellsInitialism word) :
    isInitialism (upper word) = true ∧ (nameWords word).flatMap goWord = shownSpelling word := by
  obtain ⟨initialism, hmem, hword⟩ := hword
  obtain rfl | ⟨hlong, hletters, hinitialism⟩ := initialism_cases initialism hmem
  · have hcheck : ∀ word ∈ spellings "UTF8".toList,
        isInitialism (upper word) = true ∧ (nameWords word).flatMap goWord = shownSpelling word := by decide +kernel
    exact hcheck word hword
  · obtain ⟨hupper, hname⟩ :=
      flatMap_goWord_of_mem_spellings (List.all_eq_true.mp hletters) hlong hinitialism hword
    have hwhole : word ∉ brokenSpellings := by
      have hdigits : ∀ broken ∈ brokenSpellings, (upper broken).all isCapital = false := by decide
      intro hbroken
      rw [← hupper, hdigits word hbroken] at hletters
      cases hletters
    rw [shownSpelling, if_neg hwhole, hupper]
    exact ⟨hinitialism, hname⟩

theorem signs_upper (hword : SpellsInitialism word) :
    (upper word).head?.any isCapital = true ∧ ∀ c ∈ upper word, isSmall c = false := by
  have hcheck : ∀ initialism ∈ initialisms,
      initialism.toList.head?.any isCapital = true ∧ initialism.toList.all (!isSmall ·) = true := by decide +kernel
  obtain ⟨initialism, hmem, heq⟩ := List.any_eq_true.mp hword.flatMap_goWord.1
  obtain ⟨hhead, hsmall⟩ := hcheck initialism hmem
  rw [← beq_iff_eq.mp heq]
  exact ⟨hhead, by simpa using hsmall⟩

theorem head_shownSpelling (hword : SpellsInitialism word) : (shownSpelling word).head?.any isCapital = true := by
  rw [shownSpelling]
  split
  case isTrue => decide
  case isFalse => exact hword.signs_upper.1

end SpellsInitialism

theorem goName_underscored_spellings (hne : words ≠ []) (hwords : ∀ word ∈ words, SpellsInitialism word) :
    goName (['_'].intercalate words) = words.flatMap shownSpelling := by
  have hmark : isKept '_' = false := by decide
  have hshown : (nameWords (['_'].intercalate words)).flatMap goWord = words.flatMap shownSpelling := by
    rw [nameWords_intercalate hmark, List.flatMap_assoc]
    exact List.flatMap_congr fun word hword => (hwords word hword).flatMap_goWord.2
  obtain ⟨word, others, rfl⟩ := List.exists_cons_of_ne_nil hne
  have hhead := (hwords word List.mem_cons_self).head_shownSpelling
  cases hfirst : shownSpelling word with
  | nil => simp [hfirst] at hhead
  | cons c rest =>
      rw [hfirst] at hhead
      rw [List.flatMap_cons, hfirst, List.cons_append] at hshown ⊢
      exact goName_of_isCapital hshown hhead

/-- Capitals alone show exactly where no spelling breaks. -/
theorem flatMap_shownSpelling_eq_iff (hwords : ∀ word ∈ words, SpellsInitialism word) :
    words.flatMap shownSpelling = words.flatMap upper ↔ ∀ word ∈ words, word ∉ brokenSpellings := by
  constructor
  · intro heq word hword hbroken
    have hsmall : 't' ∈ words.flatMap shownSpelling := by
      refine List.mem_flatMap.mpr ⟨word, hword, ?_⟩
      rw [shownSpelling, if_pos hbroken]
      decide
    rw [heq] at hsmall
    obtain ⟨other, hother, hsmall⟩ := List.mem_flatMap.mp hsmall
    exact absurd ((hwords other hother).signs_upper.2 't' hsmall) (by decide)
  · intro hwhole
    refine List.flatMap_congr fun word hword => ?_
    rw [shownSpelling, if_neg (hwhole word hword)]

/-- The name made of initialisms has all of them in capitals exactly if none is written so that it breaks: as utf8
or Utf8, which shows as Utf8. -/
theorem goNameText_underscored_initialisms (hne : words ≠ []) (hwords : ∀ word ∈ words, SpellsInitialism word) :
    goNameText (underscored words) = .ofList (words.flatMap shownSpelling) ∧
      (goNameText (underscored words) = .ofList (words.flatMap upper) ↔
        ∀ word ∈ words, word ∉ brokenSpellings) := by
  have hname : goNameText (underscored words) = .ofList (words.flatMap shownSpelling) := by
    rw [goNameText, underscored, String.toList_ofList, goName_underscored_spellings hne hwords]
  refine ⟨hname, ?_⟩
  rw [hname, String.ofList_inj]
  exact flatMap_shownSpelling_eq_iff hwords

/-- The words of a column for the identifier of a text behind an address, each written in its own way. -/
def apiTextUrlId : List (List Char) := ["Api".toList, "UTF8".toList, "url".toList, "ID".toList]

theorem goNameText_apiTextUrlId :
    (apiTextUrlId ≠ [] ∧ (∀ word ∈ apiTextUrlId, SpellsInitialism word) ∧
      ∀ word ∈ apiTextUrlId, word ∉ brokenSpellings) ∧
      underscored apiTextUrlId = "Api_UTF8_url_ID" ∧
      goNameText (underscored apiTextUrlId) = .ofList (apiTextUrlId.flatMap upper) ∧
      String.ofList (apiTextUrlId.flatMap upper) = "APIUTF8URLID" := by
  have hne : apiTextUrlId ≠ [] := List.cons_ne_nil _ _
  have hwords : ∀ word ∈ apiTextUrlId, SpellsInitialism word := by decide +kernel
  have hwhole : ∀ word ∈ apiTextUrlId, word ∉ brokenSpellings := by decide
  exact ⟨⟨hne, hwords, hwhole⟩, by decide +kernel,
    (goNameText_underscored_initialisms hne hwords).2.mpr hwhole, by decide +kernel⟩

/-- In small letters the initialism with a digit does not become capitals. -/
theorem not_goNameText_utf8 : SpellsInitialism "utf8".toList ∧ underscored ["utf8".toList] = "utf8" ∧
    goNameText "utf8" = "Utf8" ∧ String.ofList (["utf8".toList].flatMap upper) = "UTF8" := by
  decide +kernel

end GormModels.Naming
