import Mathlib.Data.List.SplitBy
import GormModels.Naming
import GormModels.Proofs.Naming.Affix
import GormModels.Proofs.Naming.SnakeCase
import GormModels.Proofs.Naming.Word
import GormModels.Proofs.Text.Blank
import GormModels.Proofs.Text.Join
import GormModels.Proofs.Text.Letter

/-!
# What a JSON name keeps of a column's name

The JSON name of a column is its words in small letters, put together with underscores. No word holds an
underscore, so the name keeps exactly the list of these words.
-/

namespace GormModels.Naming

open Text

/-- The words of a column's name: those of its runs of letters and digits, and where it has none, what stands
between its underscores. -/
def jsonWords (s : List Char) : List (List Char) :=
  if alphanumericRuns s = [] then s.splitOn '_' else (alphanumericRuns s).flatMap snakeWords

/-- What a column's JSON name is made of. -/
def loweredWords (column beginnings : String) : List (List Char) :=
  (jsonWords (stripBeginning column.toList beginnings)).map lower

/-! ### Runs -/

theorem eq_of_isChain {α : Type} {f : α → Bool} {a c : α} {rest : List α}
    (hchain : (a :: rest).IsChain fun x y => f x == f y) (hc : c ∈ rest) : f a = f c := by
  induction rest generalizing a with
  | nil => simp at hc
  | cons b rest ih =>
      obtain ⟨hab, hrest⟩ := List.isChain_cons_cons.mp hchain
      obtain rfl | hc := List.mem_cons.mp hc
      · exact beq_iff_eq.mp hab
      · exact (beq_iff_eq.mp hab).trans (ih hrest hc)

/-- The runs hold every letter and digit in its place. -/
theorem flatten_alphanumericRuns (s : List Char) : (alphanumericRuns s).flatten = s.filter isAlphanumeric := by
  have hsame : ∀ run ∈ s.splitBy fun a b => isAlphanumeric a == isAlphanumeric b,
      ∀ a ∈ run, ∀ b ∈ run, isAlphanumeric a = isAlphanumeric b := by
    intro run hrun a ha b hb
    cases run with
    | nil => cases ha
    | cons first rest =>
        have hfirst : ∀ c ∈ first :: rest, isAlphanumeric first = isAlphanumeric c := by
          rintro c (_ | ⟨_, hc⟩)
          · rfl
          · exact eq_of_isChain (List.isChain_of_mem_splitBy hrun) hc
        exact (hfirst a ha).symm.trans (hfirst b hb)
  rw [alphanumericRuns, flatten_filter_head? hsame, List.flatten_splitBy]

theorem isAlphanumeric_of_mem_alphanumericRuns {s run : List Char} (hrun : run ∈ alphanumericRuns s) :
    ∀ c ∈ run, isAlphanumeric c = true := by
  intro c hc
  have hkept : c ∈ (alphanumericRuns s).flatten := List.mem_flatten.mpr ⟨run, hrun, hc⟩
  rw [flatten_alphanumericRuns] at hkept
  exact (List.mem_filter.mp hkept).2

theorem isAlphanumeric_of_alphanumericRuns_eq_nil {s : List Char} (hruns : alphanumericRuns s = []) :
    ∀ c ∈ s, isAlphanumeric c = false := by
  have hnone := flatten_alphanumericRuns s
  rw [hruns, List.flatten_nil, eq_comm, List.filter_eq_nil_iff] at hnone
  exact fun c hc => Bool.eq_false_iff.mpr (hnone c hc)

theorem not_mem_of_isAlphanumeric {s : List Char} {c : Char} (hs : ∀ d ∈ s, isAlphanumeric d = true)
    (hc : isAlphanumeric c = false) : c ∉ s := by
  intro hmem
  rw [hs c hmem] at hc
  cases hc

theorem underscore_not_mem_of_mem_alphanumericRuns {s run : List Char} (hrun : run ∈ alphanumericRuns s) :
    '_' ∉ run :=
  not_mem_of_isAlphanumeric (isAlphanumeric_of_mem_alphanumericRuns hrun) (by decide)

theorem snakeCase_of_mem_alphanumericRuns {s run : List Char} (hrun : run ∈ alphanumericRuns s) :
    snakeCase run = ['_'].intercalate ((snakeWords run).map lower) :=
  snakeCase_eq_intercalate (underscore_not_mem_of_mem_alphanumericRuns hrun)
    (not_mem_of_isAlphanumeric (isAlphanumeric_of_mem_alphanumericRuns hrun) (by decide))

/-! ### Names without letters and digits -/

theorem markCapitalized_eq_self {s : List Char} (hs : ∀ c ∈ s, isCapital c = false) :
    markCapitalized s = s := by
  fun_induction markCapitalized s with
  | case1 a b c rest hmark ih => simp [hs b (by simp)] at hmark
  | case2 a b c rest hmark ih => rw [ih fun d hd => hs d (List.mem_cons_of_mem _ hd)]
  | case3 s hshort => rfl

theorem joinUnderscores_eq_self {s : List Char} (hs : ∀ c ∈ s, isCapital c = false) :
    joinUnderscores s = s := by
  fun_induction joinUnderscores s with
  | case1 c rest hc ih => simp [hs c (by simp)] at hc
  | case2 c rest hc ih => rw [ih fun d hd => hs d (List.mem_cons_of_mem _ hd)]
  | case3 c rest hc ih => rw [ih fun d hd => hs d (List.mem_cons_of_mem _ hd)]
  | case4 => rfl

theorem markCapitals_eq_self {s : List Char} (hs : ∀ c ∈ s, isCapital c = false) :
    markCapitals s = s := by
  fun_induction markCapitals s with
  | case1 a b rest hmark ih => simp [hs b (by simp)] at hmark
  | case2 a b rest hmark ih => rw [ih fun d hd => hs d (List.mem_cons_of_mem _ hd)]
  | case3 s hshort => rfl

theorem snakeCase_eq_lower {s : List Char} (hs : ∀ c ∈ s, isCapital c = false) : snakeCase s = lower s := by
  rw [snakeCase, markCapitalized_eq_self hs, joinUnderscores_eq_self hs, markCapitals_eq_self hs]

/-! ### The name and its words -/

theorem jsonWords_ne_nil (s : List Char) : jsonWords s ≠ [] := by
  rw [jsonWords]
  split
  case isTrue => exact List.splitOn_ne_nil '_' s
  case isFalse hruns =>
      obtain ⟨run, rest, hcons⟩ := List.exists_cons_of_ne_nil hruns
      simp [hcons, snakeWords_ne_nil run]

theorem underscore_not_mem_of_mem_jsonWords {s word : List Char} (hword : word ∈ jsonWords s) :
    '_' ∉ word := by
  rw [jsonWords] at hword
  split at hword
  case isTrue => exact not_mem_of_mem_splitOn hword
  case isFalse =>
      obtain ⟨run, hrun, hword⟩ := List.mem_flatMap.mp hword
      exact not_mem_of_mem_snakeWords (underscore_not_mem_of_mem_alphanumericRuns hrun) hword

theorem snakeCase_of_alphanumericRuns_eq_nil {s : List Char} (hruns : alphanumericRuns s = []) :
    snakeCase s = ['_'].intercalate ((s.splitOn '_').map lower) := by
  have hcapitals : ∀ c ∈ s, isCapital c = false := by
    intro c hc
    by_contra hcapital
    have hnone := isAlphanumeric_of_alphanumericRuns_eq_nil hruns c hc
    rw [isAlphanumeric_of_isCapital (by simpa using hcapital)] at hnone
    cases hnone
  rw [snakeCase_eq_lower hcapitals, ← lower_intercalate_underscore, List.intercalate_splitOn]

theorem toList_jsonName (column beginnings : String) :
    (jsonName column beginnings).toList = ['_'].intercalate (loweredWords column beginnings) := by
  rw [loweredWords, jsonWords, jsonName]
  generalize stripBeginning column.toList beginnings = s
  split
  case h_1 hruns =>
      rw [if_pos hruns, String.toList_ofList, snakeCase_of_alphanumericRuns_eq_nil hruns]
  case h_2 runs hruns =>
      have hcases : (alphanumericRuns s).map snakeCase =
          (alphanumericRuns s).map fun run => ['_'].intercalate ((snakeWords run).map lower) :=
        List.map_congr_left fun run hrun => snakeCase_of_mem_alphanumericRuns hrun
      have hwords : ∀ run, (snakeWords run).map lower ≠ [] := by simp [snakeWords_ne_nil]
      rw [if_neg hruns, String.toList_ofList, hcases, intercalate_map_intercalate hwords, List.map_flatMap]

/-- Two JSON names are equal only where the words of the columns are, whatever their letter case. -/
theorem jsonName_eq_iff {column column' beginnings : String} :
    jsonName column beginnings = jsonName column' beginnings ↔
      loweredWords column beginnings = loweredWords column' beginnings := by
  have hrecover : ∀ name, (jsonName name beginnings).toList.splitOn '_' = loweredWords name beginnings := by
    intro name
    rw [toList_jsonName, List.splitOn_intercalate]
    · intro word hword
      obtain ⟨source, hsource, rfl⟩ := List.mem_map.mp hword
      exact underscore_not_mem_lower (underscore_not_mem_of_mem_jsonWords hsource)
    · simp [loweredWords, jsonWords_ne_nil]
  constructor
  · intro heq
    rw [← hrecover column, ← hrecover column', heq]
  · intro heq
    rw [← String.toList_inj, toList_jsonName, toList_jsonName, heq]

/-! ### Letters and digits -/

/-- Where there are letters or digits, the words hold just these. -/
theorem flatten_jsonWords {s : List Char} (hruns : alphanumericRuns s ≠ []) :
    (jsonWords s).flatten = s.filter isAlphanumeric := by
  have hwords : (alphanumericRuns s).map (fun run => (snakeWords run).flatten) = alphanumericRuns s := by
    simp only [flatten_snakeWords, List.map_id']
  rw [jsonWords, if_neg hruns, List.flatMap, List.flatten_flatten, List.map_map, ← flatten_alphanumericRuns]
  exact congrArg List.flatten hwords

theorem ne_nil_of_mem_jsonWords {s word : List Char} (hruns : alphanumericRuns s ≠ []) (hword : word ∈ jsonWords s) :
    word ≠ [] := by
  rw [jsonWords, if_neg hruns] at hword
  obtain ⟨run, hrun, hword⟩ := List.mem_flatMap.mp hword
  refine ne_nil_of_mem_snakeWords ?_ hword
  rintro rfl
  exact absurd (List.mem_filter.mp hrun).2 (by simp)

/-- A group of a JSON name: small letters and digits. -/
structure IsGroup (group : List Char) : Prop where
  ne_nil : group ≠ []
  signs : ∀ c ∈ group, isSmall c = true ∨ c.isDigit = true

theorem IsGroup.underscore_not_mem {group : List Char} (hgroup : IsGroup group) : '_' ∉ group := fun hmem =>
  absurd (hgroup.signs '_' hmem) (by decide)

theorem small_or_digit_toLower {c : Char} (hascii : c.toNat < 128) (hc : c.isAlphanum = true) :
    isSmall c.toLower = true ∨ c.toLower.isDigit = true :=
  of_ascii (p := fun c => c.isAlphanum = true → isSmall c.toLower = true ∨ c.toLower.isDigit = true) (by decide)
    hascii hc

section

variable {s : List Char} (hascii : ∀ c ∈ s, c.toNat < 128)

include hascii

theorem filter_isAlphanumeric : s.filter isAlphanumeric = s.filter Char.isAlphanum :=
  List.filter_congr fun c hc => by rw [isAlphanumeric, if_pos (hascii c hc)]

variable (hsome : ∃ c ∈ s, c.isAlphanum = true)

include hsome

theorem alphanumericRuns_ne_nil : alphanumericRuns s ≠ [] := by
  obtain ⟨c, hc, halphanumeric⟩ := hsome
  intro hruns
  have hnot := isAlphanumeric_of_alphanumericRuns_eq_nil hruns c hc
  rw [isAlphanumeric_of_isAlphanum (hascii c hc) halphanumeric] at hnot
  cases hnot

theorem isAlphanum_of_mem_jsonWords {word : List Char} (hword : word ∈ jsonWords s) :
    ∀ c ∈ word, c.toNat < 128 ∧ c.isAlphanum = true := by
  intro c hc
  have hmem : c ∈ (jsonWords s).flatten := List.mem_flatten.mpr ⟨word, hword, hc⟩
  rw [flatten_jsonWords (alphanumericRuns_ne_nil hascii hsome), filter_isAlphanumeric hascii, List.mem_filter] at hmem
  exact ⟨hascii c hmem.1, hmem.2⟩

theorem map_lower_jsonWords : (jsonWords s).map lower = (jsonWords s).map (List.map Char.toLower) :=
  List.map_congr_left fun _ hword =>
    lower_eq_map fun c hc => (isAlphanum_of_mem_jsonWords hascii hsome hword c hc).1

theorem isGroup_of_mem_lower_jsonWords {group : List Char} (hgroup : group ∈ (jsonWords s).map lower) :
    IsGroup group := by
  rw [map_lower_jsonWords hascii hsome] at hgroup
  obtain ⟨word, hword, rfl⟩ := List.mem_map.mp hgroup
  refine ⟨by simpa using ne_nil_of_mem_jsonWords (alphanumericRuns_ne_nil hascii hsome) hword, fun d hd => ?_⟩
  obtain ⟨c, hc, rfl⟩ := List.mem_map.mp hd
  obtain ⟨hascii, halphanumeric⟩ := isAlphanum_of_mem_jsonWords hascii hsome hword c hc
  exact small_or_digit_toLower hascii halphanumeric

theorem flatten_lower_jsonWords : ((jsonWords s).map lower).flatten = (s.filter Char.isAlphanum).map Char.toLower := by
  rw [map_lower_jsonWords hascii hsome, ← List.map_flatten,
    flatten_jsonWords (alphanumericRuns_ne_nil hascii hsome), filter_isAlphanumeric hascii]

end

/-- A JSON name is made of groups of small letters and digits, with single underscores between them, and has the
letters and digits of the column in their order. -/
theorem jsonName_keeps_alphanumerics {column beginnings : String} (hascii : ∀ c ∈ column.toList, c.toNat < 128)
    (hsome : ∃ c ∈ (stripText column beginnings).toList, c.isAlphanum = true) :
    (∃ groups, groups ≠ [] ∧ (∀ group ∈ groups, IsGroup group) ∧
      jsonName column beginnings = .ofList (['_'].intercalate groups)) ∧
    (jsonName column beginnings).toList.filter (· != '_') =
      ((stripText column beginnings).toList.filter Char.isAlphanum).map Char.toLower := by
  have hname := toList_jsonName column beginnings
  have hstripped : ∀ c ∈ stripBeginning column.toList beginnings, c.toNat < 128 := fun c hc =>
    hascii c ((stripBeginning_suffix column.toList beginnings).subset hc)
  rw [stripText, String.toList_ofList] at hsome ⊢
  have hgroups : ∀ group ∈ loweredWords column beginnings, IsGroup group := fun group hgroup =>
    isGroup_of_mem_lower_jsonWords hstripped hsome hgroup
  constructor
  · refine ⟨loweredWords column beginnings, by simp [loweredWords, jsonWords_ne_nil], hgroups, ?_⟩
    rw [← hname, String.ofList_toList]
  · rw [hname, filter_ne_intercalate fun group hgroup => (hgroups group hgroup).underscore_not_mem]
    exact flatten_lower_jsonWords hstripped hsome

theorem jsonName_keeps_alphanumerics_userId :
    ((∀ c ∈ "t_User-ID2".toList, c.toNat < 128) ∧
      ∃ c ∈ (stripText "t_User-ID2" "t_").toList, c.isAlphanum = true) ∧
    jsonName "t_User-ID2" "t_" = "user_id2" ∧
    (jsonName "t_User-ID2" "t_").toList.filter (· != '_') =
      ((stripText "t_User-ID2" "t_").toList.filter Char.isAlphanum).map Char.toLower := by
  have hascii : ∀ c ∈ "t_User-ID2".toList, c.toNat < 128 := forall_mem_of_all (by decide)
  have hsome : ∃ c ∈ (stripText "t_User-ID2" "t_").toList, c.isAlphanum = true := ⟨'U', by decide +kernel, by decide⟩
  exact ⟨⟨hascii, hsome⟩, by decide +kernel, (jsonName_keeps_alphanumerics hascii hsome).2⟩

/-! ### Other characters -/

/-- A character that is neither of a word nor made by letter case stands in a JSON name only if the column has
it. -/
theorem mem_of_mem_jsonName {column beginnings : String} {d : Char} (hfree : CaseFree [d.toNat])
    (hword : isWordChar d = false) (hd : d ∈ (jsonName column beginnings).toList) : d ∈ column.toList := by
  rw [isWordChar, Bool.or_eq_false_iff, beq_eq_false_iff_ne] at hword
  rw [toList_jsonName] at hd
  obtain hunderscore | ⟨lowered, hlowered, hd⟩ := mem_of_mem_intercalate hd
  · exact absurd hunderscore hword.1
  obtain ⟨word, hmem, rfl⟩ := List.mem_map.mp hlowered
  have hd : d ∈ word := by
    by_contra hnot
    refine hfree.of_mem_lower (s := word) (fun c hc heq => hnot ?_) d hd (List.mem_singleton_self _)
    rwa [← Char.toNat_inj.mp (List.mem_singleton.mp heq)]
  refine (stripBeginning_suffix column.toList beginnings).subset ?_
  rw [jsonWords] at hmem
  split at hmem
  case isTrue => exact mem_of_mem_splitOn hmem hd
  case isFalse =>
      obtain ⟨run, hrun, hmem⟩ := List.mem_flatMap.mp hmem
      have hrun : d ∉ run := not_mem_of_isAlphanumeric (isAlphanumeric_of_mem_alphanumericRuns hrun) hword.2
      exact absurd hd (not_mem_of_mem_snakeWords hrun hmem)

end GormModels.Naming
