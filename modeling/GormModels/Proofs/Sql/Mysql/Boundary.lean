import GormModels.Proofs.Sql.Mysql.Ending

/-!
# Texts behind each other

A text that ends in a line feed is read as it is alone when a semicolon stands behind it. A line feed behind any
text changes nothing unless two hyphens stand before it: at the end of a text they are signs, and before a line
feed they start a comment.
-/

namespace GormModels.Sql.Mysql.Lexer

open Text

/-! ### Numbers, words and operators -/

section

variable {d : Char} (hend : d ∈ endSigns)

include hend

theorem number_extends (c : Char) (s e : List Char) :
    Extends Step.more s.length (.ok (number c s)) (.ok (number c (s ++ d :: e))) := by
  have hdigits := numberLength_le false 0 s
  have hle := number_le s
  simp only [number, numberLength_append hend, List.drop_append_of_le_length hdigits, numeralLength_append hend]
  cases (numberLength false 0 s).2 with
  | true =>
      simp only [if_true, List.take_append_of_le_length hle]
      exact .ok hle
  | false =>
      simp only [Bool.false_eq_true, if_false, List.take_append_of_le_length hdigits]
      exact .ok hdigits

theorem prefixedNumeral_extends (kind : TokenKind) (base : Nat) (s e : List Char) :
    Extends Step.more s.length (.ok (prefixedNumeral kind base s))
      (.ok (prefixedNumeral kind base (s ++ d :: e))) := by
  have hle := numeralLength_le s
  simp only [prefixedNumeral, numeralLength_append hend, List.take_append_of_le_length hle]
  refine .ok ?_
  split <;> split <;> exact hle

end

section

variable {e : List Char} (he : IsEnd e)

include he

theorem word_extends (c : Char) (s : List Char) :
    Extends Step.more s.length (.ok (word c s)) (.ok (word c (s ++ e))) := by
  have hphrase := phrase?_append he (c :: s)
  rw [List.cons_append] at hphrase
  rw [word, word, hphrase]
  cases hfound : phrase? (c :: s) with
  | some found =>
      have hle := phrase?_le hfound
      rw [List.length_cons] at hle
      exact .ok (by simp only [Step.more]; omega)
  | none =>
      obtain ⟨d, rest, rfl, hend⟩ := he.head
      have hle := wordLength_le s
      simp only [wordLength_append hend, List.take_append_of_le_length hle]
      exact .ok hle

theorem symbol_extends (c : Char) (s : List Char) :
    Extends Step.more s.length (.ok (symbol c s)) (.ok (symbol c (s ++ e))) := by
  have hlong := longSymbol?_append he (c :: s)
  rw [List.cons_append] at hlong
  rw [symbol, symbol, hlong]
  cases hfound : longSymbol? (c :: s) with
  | some found =>
      have hle := longSymbol?_le hfound
      rw [List.length_cons] at hle
      exact .ok (by simp only [Step.more]; omega)
  | none => exact .ok (Nat.zero_le _)

end

/-! ### One step -/

section

variable {d : Char} (hend : d ∈ endSigns)

include hend

theorem not_quote_of_mem_endSigns : d ≠ '\'' ∧ d ≠ '"' ∧ d ≠ '\x60' := by
  have hcheck : ∀ x ∈ endSigns, x ≠ '\'' ∧ x ≠ '"' ∧ x ≠ '\x60' := forall_mem_of_all (by decide)
  exact hcheck d hend

theorem numeral_extends (c : Char) (s e : List Char) :
    Extends Step.more s.length (.ok (numeral c s)) (.ok (numeral c (s ++ d :: e))) := by
  by_cases hc : c = '0'
  · subst hc
    cases s with
    | nil =>
        have hcheck : ∀ x ∈ endSigns, x ∉ ['b', 'B', 'x', 'X'] := forall_mem_of_all (by decide)
        have hletters := hcheck d hend
        simp only [List.mem_cons, List.not_mem_nil, or_false, not_or] at hletters
        have hplain : numeral '0' (d :: e) = number '0' (d :: e) := by simp [numeral, hletters]
        rw [List.nil_append, hplain]
        exact number_extends hend '0' [] e
    | cons next s =>
        rw [List.cons_append, numeral, numeral]
        split
        · exact prefixedNumeral_extends hend _ _ (next :: s) e
        · split
          · exact prefixedNumeral_extends hend _ _ (next :: s) e
          · exact number_extends hend _ (next :: s) e
  · have hplain : ∀ s, numeral c s = number c s := by
      intro s
      unfold numeral
      split
      case h_1 => exact absurd rfl hc
      case h_2 => rfl
    rw [hplain, hplain]
    exact number_extends hend c s e

theorem opening?_extends {c : Char} {s : List Char} {found : Except Stop Step} (h : opening? c s = some found)
    (e : List Char) :
    ∃ found', opening? c (s ++ d :: e) = some found' ∧ Extends Step.more s.length found found' := by
  obtain ⟨hsingle, hdouble, -⟩ := not_quote_of_mem_endSigns hend
  unfold opening? at h
  split at h
  case h_1 => cases h
  case h_2 next s =>
      split at h
      case h_1 =>
          cases h
          exact ⟨_, rfl, slashComment_extends _ _⟩
      case h_2 =>
          cases h
          exact ⟨_, rfl, blockComment_extends (by simp; omega) _ _⟩
      case h_3 | h_4 | h_5 | h_6 =>
          cases h
          exact ⟨_, rfl, numeralString_extends hsingle _ _ _ _⟩
      case h_7 | h_8 =>
          cases h
          exact ⟨_, rfl, (stringBody_extends hsingle _ e).quotation _ (by simp; omega)⟩
      case h_9 | h_10 =>
          cases h
          exact ⟨_, rfl, (stringBody_extends hdouble _ e).quotation _ (by simp; omega)⟩
      case h_11 => cases h

theorem opening?_eq_none {c : Char} {s : List Char} (h : opening? c s = none) (e : List Char) :
    opening? c (s ++ d :: e) = none := by
  cases s with
  | nil =>
      have hcheck : ∀ x ∈ endSigns, x ∉ ['*', '#', '\'', '"'] := forall_mem_of_all (by decide)
      have hsigns := hcheck d hend
      simp only [List.mem_cons, List.not_mem_nil, or_false, not_or] at hsigns
      simp [opening?, hsigns]
  | cons next s =>
      unfold opening? at h ⊢
      rw [List.cons_append]
      dsimp only at h ⊢
      split at h
      case h_11 => simp_all
      all_goals cases h

end

section

variable {e : List Char} (he : IsEnd e)

include he

/-- No step looks over an end, but that a comment is one that must not change. -/
theorem step_extends {c : Char} {s : List Char} (hstarts : startsLineComment c (s ++ e) = startsLineComment c s)
    (hline : startsLineComment c s = true → lineLength (s ++ e) = lineLength s) :
    Extends Step.more s.length (step c s) (step c (s ++ e)) := by
  obtain ⟨d, rest, rfl, hend⟩ := he.head
  obtain ⟨hsingle, hdouble, hback⟩ := not_quote_of_mem_endSigns hend
  unfold step
  by_cases hblank : isBlank c = true
  · rw [if_pos hblank, if_pos hblank]
    exact .ok (Nat.zero_le _)
  rw [if_neg hblank, if_neg hblank]
  by_cases hdigit : isDigit c = true
  · rw [if_pos hdigit, if_pos hdigit]
    exact numeral_extends hend c s rest
  rw [if_neg hdigit, if_neg hdigit]
  by_cases hquoted : (c == '\x60') = true
  · rw [if_pos hquoted, if_pos hquoted]
    exact (plainBody_extends hback s rest).quotation _ (by simp)
  rw [if_neg hquoted, if_neg hquoted]
  by_cases hstring : (c == '\'' || c == '"') = true
  · rw [if_pos hstring, if_pos hstring]
    have hc : d ≠ c := by
      rintro rfl
      simp [hsingle, hdouble] at hstring
    exact (stringBody_extends hc s rest).quotation _ (by simp)
  rw [if_neg hstring, if_neg hstring, hstarts]
  by_cases hcomment : startsLineComment c s = true
  · rw [if_pos hcomment, if_pos hcomment, hline hcomment]
    exact .ok (List.takeWhile_prefix _).length_le
  rw [if_neg hcomment, if_neg hcomment]
  cases hopening : opening? c s with
  | some found =>
      obtain ⟨found', hfound', hextends⟩ := opening?_extends hend hopening rest
      rw [hfound']
      exact hextends
  | none =>
      rw [opening?_eq_none hend hopening]
      dsimp only
      split
      · exact symbol_extends he c s
      · exact word_extends he c s

end

/-! ### Whole texts -/

/-- What may stand behind a text without a change in the step at its start: a line feed unless the text is two
hyphens, which start a comment then, and a semicolon unless it is in a line that a comment may go on in. -/
inductive Boundary (s : List Char) : List Char → Prop
  | newline (hhyphens : s ≠ ['-', '-']) : Boundary s ['\n']
  | semicolon {rest : List Char} (hline : ∀ c ∈ s.getLast?, c = '\n') : Boundary s (';' :: rest)

namespace Boundary

variable {c : Char} {s e : List Char}

theorem isEnd (h : Boundary s e) : IsEnd e := by
  cases h with
  | newline => exact .newline
  | semicolon => exact .semicolon

theorem newline_of_not_suffix (h : ¬['-', '-'] <:+ s) : ∀ t, t <:+ s → Boundary t ['\n'] := by
  intro t ht
  refine .newline ?_
  rintro rfl
  exact h ht

theorem semicolon_of_line (s rest : List Char) : ∀ t, t <:+ s ++ ['\n'] → Boundary t (';' :: rest) := by
  rintro t ⟨front, heq⟩
  refine .semicolon fun c hc => ?_
  have hlast := congrArg List.getLast? heq
  rw [List.getLast?_append, Option.mem_def.mp hc, List.getLast?_append] at hlast
  exact Option.some.inj hlast

theorem startsLineComment_append (h : Boundary (c :: s) e) :
    startsLineComment c (s ++ e) = startsLineComment c s := by
  by_cases hnumber : c = '#'
  · subst hnumber
    cases s with
    | nil => cases h <;> rfl
    | cons d s => rfl
  by_cases hhyphen : c = '-'
  · subst hhyphen
    rcases s with _ | ⟨d, _ | ⟨d', s⟩⟩
    · cases h <;> rfl
    · by_cases hd : d = '-'
      · subst hd
        cases h with
        | newline hhyphens => exact absurd rfl hhyphens
        | semicolon hline => exact absurd (hline '-' rfl) (by decide)
      · simp [startsLineComment, hd]
    · by_cases hd : d = '-'
      · subst hd
        rfl
      · simp [startsLineComment, hd]
  · simp [startsLineComment, hnumber, hhyphen]

theorem lineLength_append (h : Boundary (c :: s) e) (hcomment : startsLineComment c s = true) :
    lineLength (s ++ e) = lineLength s := by
  refine congrArg List.length ?_
  cases h with
  | newline => exact takeWhile_append_of_head (by decide) _ _
  | semicolon hline =>
      cases s with
      | nil =>
          obtain rfl := hline c rfl
          cases hcomment
      | cons d s =>
          have hmem : '\n' ∈ d :: s := by
            have hlast := hline ((d :: s).getLast (by simp)) (by simp [List.getLast?_eq_some_getLast])
            exact hlast ▸ List.getLast_mem _
          exact takeWhile_append_of_mem hmem (by decide) _

end Boundary

theorem step_append {c : Char} {s e : List Char} {r : Step} (hboundary : Boundary (c :: s) e)
    (h : step c s = .ok r) : step c (s ++ e) = .ok r ∧ r.more ≤ s.length :=
  step_extends hboundary.isEnd hboundary.startsLineComment_append hboundary.lineLength_append r h

section

variable {skipped s : List Char} {c : Char} {n : Nat}

theorem tokensAfter_nil : tokensAfter skipped [] = .ok ([], skipped) := by
  rw [tokensAfter.eq_def]

theorem tokensAfter_of_error {stop : Stop} (h : step c s = .error stop) :
    tokensAfter skipped (c :: s) = .error stop := by
  rw [tokensAfter.eq_def]
  simp only [h]

theorem tokensAfter_of_skip (h : step c s = .ok (.skip n)) :
    tokensAfter skipped (c :: s) = tokensAfter (skipped ++ c :: s.take n) (s.drop n) := by
  rw [tokensAfter.eq_def]
  simp only [h]

theorem tokensAfter_of_token {kind : TokenKind} {text : String} (h : step c s = .ok (.token kind text n)) :
    tokensAfter skipped (c :: s) =
      (fun found => ({ kind, text, skipped, source := c :: s.take n } :: found.1, found.2)) <$>
        tokensAfter [] (s.drop n) := by
  rw [tokensAfter.eq_def]
  simp only [h]
  cases tokensAfter [] (s.drop n) <;> rfl

theorem tokensAfter_append_of_skip {e : List Char} (hboundary : Boundary (c :: s) e)
    (h : step c s = .ok (.skip n)) :
    tokensAfter skipped (c :: s ++ e) = tokensAfter (skipped ++ c :: s.take n) (s.drop n ++ e) := by
  obtain ⟨h', hle⟩ := step_append hboundary h
  rw [Step.more] at hle
  rw [List.cons_append, tokensAfter_of_skip h', List.take_append_of_le_length hle,
    List.drop_append_of_le_length hle]

theorem tokensAfter_append_of_token {e : List Char} {kind : TokenKind} {text : String}
    (hboundary : Boundary (c :: s) e) (h : step c s = .ok (.token kind text n)) :
    tokensAfter skipped (c :: s ++ e) =
      (fun found => ({ kind, text, skipped, source := c :: s.take n } :: found.1, found.2)) <$>
        tokensAfter [] (s.drop n ++ e) := by
  obtain ⟨h', hle⟩ := step_append hboundary h
  rw [Step.more] at hle
  rw [List.cons_append, tokensAfter_of_token h', List.take_append_of_le_length hle,
    List.drop_append_of_le_length hle]

end

theorem drop_suffix_cons (c : Char) (s : List Char) (n : Nat) : s.drop n <:+ c :: s :=
  (List.drop_suffix n s).trans (List.suffix_cons c s)

theorem tokensAfter_append {skipped s e tail : List Char} {tokens : List Token}
    (hboundary : ∀ t, t <:+ s → Boundary t e) (h : tokensAfter skipped s = .ok (tokens, tail)) :
    tokensAfter skipped (s ++ e) = (fun found => (tokens ++ found.1, found.2)) <$> tokensAfter tail e := by
  fun_induction tokensAfter skipped s generalizing tokens tail with
  | case1 skipped =>
      cases h
      exact (id_map _).symm
  | case2 => cases h
  | case3 skipped c s n hstep ih =>
      rw [tokensAfter_append_of_skip (hboundary _ List.suffix_rfl) hstep]
      exact ih (fun t ht => hboundary t (ht.trans (drop_suffix_cons c s n))) h
  | case4 => cases h
  | case5 skipped c s kind text n hstep tokens tail hrest ih =>
      cases h
      have hmore := ih (fun t ht => hboundary t (ht.trans (drop_suffix_cons c s n))) hrest
      rw [tokensAfter_append_of_token (hboundary _ List.suffix_rfl) hstep, hmore, Functor.map_map]
      rfl

theorem tokensAfter_newline (skipped s : List Char) :
    tokensAfter skipped ('\n' :: s) = tokensAfter (skipped ++ ['\n']) s := by
  have hstep : step '\n' s = .ok (.skip 0) := rfl
  rw [tokensAfter_of_skip hstep, List.take_zero, List.drop_zero]

/-- Two hyphens start a comment where a line feed stands behind them. -/
theorem tokensAfter_hyphens (skipped : List Char) :
    tokensAfter skipped ['-', '-', '\n'] = .ok ([], skipped ++ ['-', '-', '\n']) := by
  have hstep : step '-' ['-', '\n'] = .ok (.skip 1) := rfl
  rw [tokensAfter_of_skip hstep]
  change tokensAfter _ ['\n'] = _
  rw [tokensAfter_newline, tokensAfter_nil]
  simp

/-- Where a text is read, it is read with a line feed behind it, if not always to the same tokens. -/
theorem tokensAfter_append_newline {skipped s : List Char} {found : List Token × List Char}
    (h : tokensAfter skipped s = .ok found) : ∃ found', tokensAfter skipped (s ++ ['\n']) = .ok found' := by
  fun_induction tokensAfter skipped s generalizing found with
  | case1 skipped =>
      rw [List.nil_append, tokensAfter_newline, tokensAfter_nil]
      exact ⟨_, rfl⟩
  | case2 => cases h
  | case3 skipped c s n hstep ih =>
      by_cases hhyphens : c :: s = ['-', '-']
      · cases hhyphens
        exact ⟨_, tokensAfter_hyphens skipped⟩
      · rw [tokensAfter_append_of_skip (.newline hhyphens) hstep]
        exact ih h
  | case4 => cases h
  | case5 skipped c s kind text n hstep tokens tail hrest ih =>
      by_cases hhyphens : c :: s = ['-', '-']
      · cases hhyphens
        exact ⟨_, tokensAfter_hyphens skipped⟩
      · obtain ⟨found', hfound'⟩ := ih hrest
        rw [tokensAfter_append_of_token (.newline hhyphens) hstep, hfound']
        exact ⟨_, rfl⟩

theorem longSymbol?_semicolon (s : List Char) : longSymbol? (';' :: s) = none := by
  have hcheck : ∀ symbol ∈ longSymbols, symbol.toList ≠ [] ∧ symbol.toList.head? ≠ some ';' := by
    decide
  have hnone : longSymbols.filter (fun symbol => symbol.toList.isPrefixOf (';' :: s)) = [] := by
    rw [List.filter_eq_nil_iff]
    intro symbol hsymbol
    obtain ⟨hne, hhead⟩ := hcheck symbol hsymbol
    obtain ⟨c, rest, heq⟩ := List.exists_cons_of_ne_nil hne
    have hc : c ≠ ';' := by simpa [heq] using hhead
    simp [heq, List.isPrefixOf, hc]
  rw [longSymbol?, hnone]
  rfl

theorem step_semicolon (s : List Char) : step ';' s = .ok (.token .symbol ";" 0) := by
  have hopening : opening? ';' s = none := by
    cases s <;> rfl
  have hsymbol : symbol ';' s = .token .symbol ";" 0 := by
    rw [symbol, longSymbol?_semicolon]
    rfl
  have hblank : isBlank ';' = false := by decide
  have hdigit : isDigit ';' = false := by decide
  have hquoted : (';' == '\x60') = false := by decide
  have hstring : (';' == '\'' || ';' == '"') = false := by decide
  have hcomment : startsLineComment ';' s = false := by simp [startsLineComment]
  have hsingle : ';' ∈ singleSymbols := by decide
  unfold step
  simp only [hblank, hdigit, hquoted, hstring, hcomment, hopening, hsingle, hsymbol, Bool.false_eq_true, if_false,
    if_true]

theorem tokensAfter_semicolon (skipped s : List Char) : tokensAfter skipped (';' :: s) =
    (fun found => ({ kind := .symbol, text := ";", skipped, source := [';'] } :: found.1, found.2)) <$>
      tokensAfter [] s := by
  rw [tokensAfter_of_token (step_semicolon s), List.take_zero, List.drop_zero]

/-- What is skipped before a text is skipped before its first token. -/
def skipBefore (skipped : List Char) : List Token × List Char → List Token × List Char
  | ([], tail) => ([], skipped ++ tail)
  | (t :: rest, tail) => ({ t with skipped := skipped ++ t.skipped } :: rest, tail)

theorem tokensAfter_skipBefore (more skipped s : List Char) :
    tokensAfter (more ++ skipped) s = skipBefore more <$> tokensAfter skipped s := by
  fun_induction tokensAfter skipped s with
  | case1 skipped =>
      rw [tokensAfter_nil]
      rfl
  | case2 skipped c s stop hstep =>
      rw [tokensAfter_of_error hstep]
      rfl
  | case3 skipped c s n hstep ih => rw [tokensAfter_of_skip hstep, List.append_assoc, ih]
  | case4 skipped c s kind text n hstep stop hrest =>
      rw [tokensAfter_of_token hstep, hrest]
      rfl
  | case5 skipped c s kind text n hstep tokens tail hrest ih =>
      rw [tokensAfter_of_token hstep, hrest]
      rfl

end GormModels.Sql.Mysql.Lexer
