import GormModels.Proofs.Sql.Mysql.Boundary

/-!
# Texts joined by a semicolon

The tokens of two texts with a semicolon between them fall into the statements of both: neither comments nor places
are carried over. A line feed behind a text adds no token and no comment unless two hyphens stand before it.
-/

namespace GormModels.Sql.Mysql

open Lexer

/-! ### Statements -/

section

variable {α : Type} {ends : α → Bool}

/-- A split does not depend on what the first member of a part is, but for the part itself. -/
theorem map_modifyHead_splitParts {f : α → α} {a a' : α} (hsame : f a = f a') (part xs : List α) :
    (splitParts ends (part ++ [a]) xs).map (·.modifyHead f) =
      (splitParts ends (part ++ [a']) xs).map (·.modifyHead f) := by
  induction xs generalizing part with
  | nil => simp [splitParts, hsame]
  | cons x xs ih =>
      rw [splitParts, splitParts]
      split
      · simp [hsame]
      · exact ih (x :: part)

end

theorem partsOf_append {t : Token} (ht : t.isSemicolon = true) (xs ys : List Token) :
    partsOf (xs ++ t :: ys) = partsOf xs ++ partsOf ys := by
  rw [partsOf, splitParts_append ht, List.map_append]
  rfl

/-- What is skipped before the first token makes no difference, nor do the comments of a semicolon. -/
theorem partsOf_cons_congr {t t' : Token} (hends : t.isSemicolon = t'.isSemicolon)
    (hsame : t.isSemicolon = false → t.leading = t'.leading) (rest : List Token) :
    partsOf (t :: rest) = partsOf (t' :: rest) := by
  rw [partsOf, partsOf, splitParts, splitParts, ← hends]
  cases hsemicolon : t.isSemicolon with
  | true => rfl
  | false => exact map_modifyHead_splitParts (hsame hsemicolon) [] rest

/-! ### Comments -/

theorem commentsIn_newline (onLine : Bool) (s : List Char) :
    commentsIn onLine ('\n' :: s) = commentsIn false s := by
  have hblank : Text.isBlank '\n' = true := by decide
  rw [commentsIn.eq_def]
  simp [hblank]

/-- A semicolon leaves the comments before it where the end of the text would. -/
theorem attachComments_append_semicolon {t : Token} (ht : t.isSemicolon = true) (tail : List Char)
    (xs ys : List Token) :
    attachComments false tail (xs ++ t :: ys) =
      ((attachComments false t.skipped xs).1, (attachComments false t.skipped xs).2 ++
        { t with comments := (attachComments false tail ys).1 } :: (attachComments false tail ys).2) := by
  induction xs with
  | nil => simp [attachComments, ht]
  | cons x xs ih =>
      rw [List.cons_append, attachComments, attachComments, ih]
      dsimp only
      split <;> rfl

theorem partsOf_attachComments {t : Token} (ht : t.isSemicolon = true) (tail : List Char) (xs ys : List Token) :
    partsOf (attachComments true tail (xs ++ t :: ys)).2 =
      partsOf (attachComments true t.skipped xs).2 ++ partsOf (attachComments false tail ys).2 := by
  cases xs with
  | nil =>
      simp only [List.nil_append, attachComments, Bool.not_true, Bool.and_false, Bool.false_eq_true, if_false]
      exact partsOf_append (by exact ht) [] _
  | cons x xs =>
      rw [List.cons_append, attachComments, attachComments, attachComments_append_semicolon ht]
      simp only [Bool.not_true, Bool.and_false, Bool.false_eq_true, if_false]
      exact partsOf_append (by exact ht) (_ :: _) _

/-- At the start of a text no comment belongs to a token before, and behind a line feed none does. -/
theorem partsOf_attachComments_skipBefore (found : List Token × List Char) :
    partsOf (attachComments false (skipBefore ['\n'] found).2 (skipBefore ['\n'] found).1).2 =
      partsOf (attachComments true found.2 found.1).2 := by
  obtain ⟨_ | ⟨t, rest⟩, tail⟩ := found
  · rfl
  · simp only [skipBefore, attachComments, List.singleton_append, commentsIn_newline, Bool.not_true,
      Bool.and_false, Bool.false_eq_true, if_false, Bool.not_false, Bool.and_true]
    split
    case isTrue hsemicolon =>
        refine partsOf_cons_congr (by rfl) (fun hnot => ?_) _
        cases hsemicolon.symm.trans hnot
    case isFalse => exact partsOf_cons_congr (by rfl) (by exact fun _ => rfl) _

/-! ### Variables -/

theorem nameVariables_concat (behindSign : Bool) (tokens : List Token) (t : Token) :
    nameVariables behindSign (tokens ++ [t]) = nameVariables behindSign tokens ++
      [nameVariable (tokens.getLast?.elim behindSign (·.isSymbol "@")) t] := by
  induction tokens generalizing behindSign with
  | nil => rfl
  | cons first tokens ih =>
      rw [List.cons_append, nameVariables, ih, nameVariables, List.cons_append]
      cases tokens with
      | nil => rfl
      | cons next tokens =>
          rw [List.getLast?_cons_cons]
          rfl

theorem nameVariables_modifyHead_leading (behindSign : Bool) (tokens : List Token) :
    nameVariables behindSign (tokens.modifyHead Token.leading) =
      (nameVariables behindSign tokens).modifyHead Token.leading := by
  cases tokens with
  | nil => rfl
  | cons t tokens =>
      have hleading : nameVariable behindSign t.leading = (nameVariable behindSign t).leading := by
        by_cases hword : (behindSign && t.kind == .word && t.text ∉ keyPhrases) = true
        · rw [nameVariable, nameVariable, if_pos (by exact hword), if_pos hword]
          rfl
        · rw [nameVariable, nameVariable, if_neg (by exact hword), if_neg hword]
      simp only [List.modifyHead_cons, nameVariables, hleading]
      rfl

/-- Variables may be named before the tokens are parted or behind it. -/
theorem splitParts_nameVariables (part tokens : List Token) :
    splitParts Token.isSemicolon (nameVariables false part.reverse).reverse
        (nameVariables (part.head?.any (·.isSymbol "@")) tokens) =
      (splitParts Token.isSemicolon part tokens).map (nameVariables false) := by
  -- the part is gathered in reverse, so its head is the token that the next one follows
  induction tokens generalizing part with
  | nil =>
      cases part with
      | nil => rfl
      | cons last part => simp [splitParts, nameVariables, nameVariables_concat]
  | cons t tokens ih =>
      have hends : (nameVariable (part.head?.any (·.isSymbol "@")) t).isSemicolon = t.isSemicolon :=
        isSymbol_nameVariable ";"
      rw [nameVariables, splitParts, splitParts, hends]
      split
      case isTrue hsemicolon =>
          have hsign : t.isSymbol "@" = false := by
            simp only [Token.isSemicolon, Token.isSymbol, Bool.and_eq_true, beq_iff_eq] at hsemicolon
            simp [Token.isSymbol, hsemicolon.2]
          have hrest := ih []
          rw [List.reverse_nil, nameVariables, List.reverse_nil, List.head?_nil, Option.any_none] at hrest
          rw [hsign, hrest]
          cases part with
          | nil => rfl
          | cons last part => simp [nameVariables_concat]
      case isFalse =>
          have hrest := ih (t :: part)
          rw [List.reverse_cons, nameVariables_concat, List.reverse_append, List.getLast?_reverse] at hrest
          rw [← hrest]
          cases part <;> rfl

/-- Variables are named in each statement for itself. -/
theorem partsOf_nameVariables (tokens : List Token) :
    partsOf (nameVariables false tokens) = (partsOf tokens).map (nameVariables false) := by
  have hsplit := splitParts_nameVariables [] tokens
  rw [List.reverse_nil, nameVariables, List.reverse_nil, List.head?_nil, Option.any_none] at hsplit
  rw [partsOf, partsOf, hsplit, List.map_map, List.map_map]
  exact List.map_congr_left fun part _ => (nameVariables_modifyHead_leading false part).symm

/-! ### Tokens -/

theorem tokenize_eq_ok_iff {text : List Char} {tokens : List Token} : tokenize text = .ok tokens ↔
    ∃ found, tokensAfter [] text = .ok found ∧
      nameVariables false (attachComments true found.2 found.1).2 = tokens := by
  rw [tokenize]
  cases tokensAfter [] text with
  | error stop => simp
  | ok found => simp

theorem tokenize_batch {a b : List Char} {as bs : List Token} (ha : tokenize (a ++ ['\n']) = .ok as)
    (hb : tokenize b = .ok bs) : ∃ tokens, tokenize (a ++ ['\n'] ++ ';' :: '\n' :: b) = .ok tokens ∧
      partsOf tokens = partsOf as ++ partsOf bs := by
  obtain ⟨⟨xs, tail⟩, hxs, rfl⟩ := tokenize_eq_ok_iff.mp ha
  obtain ⟨ys, hys, rfl⟩ := tokenize_eq_ok_iff.mp hb
  have hlexed := tokensAfter_append (Boundary.semicolon_of_line a ('\n' :: b)) hxs
  have hbehind := tokensAfter_skipBefore ['\n'] [] b
  rw [tokensAfter_semicolon, tokensAfter_newline, List.nil_append] at hlexed
  rw [List.append_nil] at hbehind
  rw [hbehind, hys] at hlexed
  refine ⟨_, tokenize_eq_ok_iff.mpr ⟨_, hlexed, rfl⟩, ?_⟩
  dsimp only
  rw [partsOf_nameVariables, partsOf_attachComments (by rfl), partsOf_attachComments_skipBefore, List.map_append,
    ← partsOf_nameVariables, ← partsOf_nameVariables]

/-! ### A line feed behind a text -/

/-- Steps that skip lead from a text to what is left of it. -/
inductive SkipsTo (rest : List Char) : List Char → Prop
  | done : SkipsTo rest rest
  | skip {c : Char} {s : List Char} {n : Nat} (hstep : step c s = .ok (.skip n))
      (hmore : SkipsTo rest (s.drop n)) : SkipsTo rest (c :: s)

theorem SkipsTo.trans {text middle rest : List Char} (hfirst : SkipsTo middle text)
    (hlast : SkipsTo rest middle) : SkipsTo rest text := by
  induction hfirst with
  | done => exact hlast
  | skip hstep hmore ih => exact .skip hstep ih

/-- What follows the last token is blanks and comments up to the end. -/
theorem skipsTo_of_tokensAfter {skipped s tail : List Char} {tokens : List Token}
    (h : tokensAfter skipped s = .ok (tokens, tail)) (hskips : SkipsTo s (skipped ++ s)) :
    SkipsTo [] tail ∧ tail <:+ skipped ++ s := by
  fun_induction tokensAfter skipped s generalizing tokens tail with
  | case1 skipped =>
      cases h
      rw [List.append_nil] at hskips
      simpa using hskips
  | case2 => cases h
  | case3 skipped c s n hstep ih =>
      have hsplit : skipped ++ c :: s.take n ++ s.drop n = skipped ++ c :: s := by
        rw [List.append_assoc, List.cons_append, List.take_append_drop]
      rw [hsplit] at ih
      exact ih h (hskips.trans (.skip hstep .done))
  | case4 => cases h
  | case5 skipped c s kind text n hstep tokens tail hrest ih =>
      cases h
      obtain ⟨htail, hsuffix⟩ := ih hrest .done
      exact ⟨htail, hsuffix.trans ((drop_suffix_cons c s n).trans (List.suffix_append _ _))⟩

theorem commentsIn_append_newline {tail : List Char} (hskips : SkipsTo [] tail) (hhyphens : ¬['-', '-'] <:+ tail)
    (onLine : Bool) : commentsIn onLine (tail ++ ['\n']) = commentsIn onLine tail := by
  induction hskips generalizing onLine with
  | done =>
      rw [List.nil_append, commentsIn_newline, commentsIn.eq_def, commentsIn.eq_def]
  | @skip c s n hstep hmore ih =>
      have hrest := ih fun h => hhyphens (h.trans (drop_suffix_cons c s n))
      obtain ⟨hstep', hle⟩ := step_append (Boundary.newline_of_not_suffix hhyphens _ List.suffix_rfl) hstep
      rw [Step.more] at hle
      rw [List.cons_append, commentsIn.eq_def, commentsIn.eq_def onLine (c :: s)]
      dsimp only
      split
      case isTrue hblank =>
          rw [step, if_pos hblank] at hstep
          cases hstep
          exact hrest _
      case isFalse hblank =>
          rw [hstep, hstep']
          dsimp only
          rw [List.take_append_of_le_length hle, List.drop_append_of_le_length hle, hrest]

theorem attachComments_append_newline {tail : List Char} (hskips : SkipsTo [] tail)
    (hhyphens : ¬['-', '-'] <:+ tail) (first : Bool) (tokens : List Token) :
    attachComments first (tail ++ ['\n']) tokens = attachComments first tail tokens := by
  induction tokens generalizing first with
  | nil => rw [attachComments, attachComments, commentsIn_append_newline hskips hhyphens]
  | cons t tokens ih => rw [attachComments, attachComments, ih]

theorem tokenize_append_newline {text : List Char} {tokens : List Token} (hhyphens : ¬['-', '-'] <:+ text)
    (h : tokenize text = .ok tokens) : tokenize (text ++ ['\n']) = .ok tokens := by
  obtain ⟨⟨found, tail⟩, hfound, rfl⟩ := tokenize_eq_ok_iff.mp h
  obtain ⟨hskips, hsuffix⟩ := skipsTo_of_tokensAfter hfound .done
  have hlexed := tokensAfter_append (Boundary.newline_of_not_suffix hhyphens) hfound
  rw [tokensAfter_newline, tokensAfter_nil] at hlexed
  refine tokenize_eq_ok_iff.mpr ⟨_, hlexed, ?_⟩
  dsimp only
  rw [List.append_nil, attachComments_append_newline hskips fun h => hhyphens (h.trans hsuffix)]

theorem tokenize_newline_succeeds {text : List Char} {tokens : List Token} (h : tokenize text = .ok tokens) :
    ∃ tokens', tokenize (text ++ ['\n']) = .ok tokens' := by
  obtain ⟨found, hfound, -⟩ := tokenize_eq_ok_iff.mp h
  obtain ⟨found', hfound'⟩ := tokensAfter_append_newline hfound
  exact ⟨_, tokenize_eq_ok_iff.mpr ⟨found', hfound', rfl⟩⟩

instance : PartsTexts where
  newline h := by
    obtain ⟨tokens, htokens⟩ := tokenize_newline_succeeds (tokensOf_eq_ok_iff_tokenize.mp h)
    exact ⟨tokens, tokensOf_eq_ok_iff_tokenize.mpr (by rwa [String.toList_append])⟩
  newline_eq hhyphens h := by
    have htokens := tokenize_append_newline hhyphens (tokensOf_eq_ok_iff_tokenize.mp h)
    exact tokensOf_eq_ok_iff_tokenize.mpr (by rwa [String.toList_append])
  batch ha hb := by
    rw [tokensOf_eq_ok_iff_tokenize, String.toList_append] at ha
    obtain ⟨tokens, htokens, hparts⟩ := tokenize_batch ha (tokensOf_eq_ok_iff_tokenize.mp hb)
    exact ⟨tokens, tokensOf_eq_ok_iff_tokenize.mpr (by rwa [toList_batch]), hparts⟩

end GormModels.Sql.Mysql
