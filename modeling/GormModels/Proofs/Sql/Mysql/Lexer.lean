import Mathlib.Data.List.Chain
import Mathlib.Data.List.TakeWhile
import GormModels.Sql.Mysql
import GormModels.Proofs.Sql.Dialect

/-!
# What stands between and behind tokens

The tokens of a text hold all of it. What is skipped before a token is blanks and comments, and a comment is
told by its first character. A word goes as far as it can: no letter and no digit stands behind it.
-/

namespace GormModels.Sql.Mysql.Lexer

open Text

/-- No word goes on here. -/
def EndsWord (s : List Char) : Prop := ∀ c ∈ s.head?, isBlank c = true ∨ c ∈ singleSymbols

/-! ### One step -/

/-- What one step can do at the character `c` before the text `s`. -/
inductive StepsTo (c : Char) (s : List Char) : Step → Prop
  | blank (hblank : isBlank c = true) : StepsTo c s (.skip 0)
  | comment {n : Nat} (hsign : c ∈ commentSigns) : StepsTo c s (.skip n)
  | number (hblank : isBlank c = false) : StepsTo c s (number c s)
  | word (hblank : isBlank c = false) : StepsTo c s (word c s)
  | other {kind : TokenKind} {text : String} {n : Nat} (hblank : isBlank c = false) (hkind : kind ≠ .word) :
      StepsTo c s (.token kind text n)

section

variable {c : Char} {s : List Char} (hblank : isBlank c = false)

include hblank

theorem stepsTo_of_quotation {kind : TokenKind} {opening : Nat} {body : Except Stop (List Char × Nat)}
    {r : Step} (hkind : kind ≠ .word) (h : quotation kind opening body = .ok r) : StepsTo c s r := by
  cases body with
  | error stop => cases h
  | ok found =>
      cases h
      exact .other hblank hkind

theorem stepsTo_of_numeralString {rest : List Char} {kind : TokenKind} {base : Nat} {r : Step}
    (hkind : kind ≠ .word) (h : numeralString kind base rest = .ok r) : StepsTo c s r := by
  cases hbody : stringBody '\'' rest with
  | error stop => simp [numeralString, hbody, bind, Except.bind] at h
  | ok found =>
      simp only [numeralString, hbody, bind, Except.bind] at h
      split at h
      · cases h
        exact .other hblank hkind
      · cases h

theorem stepsTo_prefixedNumeral {rest : List Char} {kind : TokenKind} {base : Nat} (hkind : kind ≠ .word) :
    StepsTo c s (prefixedNumeral kind base rest) := by
  simp only [prefixedNumeral]
  split <;> split
  all_goals first
    | exact .other hblank hkind
    | exact .other hblank (by decide)

theorem stepsTo_numeral : StepsTo c s (numeral c s) := by
  unfold numeral
  split
  · split
    · exact stepsTo_prefixedNumeral hblank (by decide)
    · split
      · exact stepsTo_prefixedNumeral hblank (by decide)
      · exact .number hblank
  · exact .number hblank

theorem stepsTo_symbol : StepsTo c s (symbol c s) := by
  rw [symbol]
  split <;> exact .other hblank (by decide)

end

theorem stepsTo_of_blockComment {c : Char} {s rest : List Char} {opening : Nat} {close : Char × Char}
    {r : Step}
    (hsign : c ∈ commentSigns) (h : blockComment opening close rest = .ok r) : StepsTo c s r := by
  rw [blockComment] at h
  split at h
  · cases h
    exact .comment hsign
  · cases h

theorem stepsTo_of_slashComment {c : Char} {s rest : List Char} {r : Step}
    (hsign : c ∈ commentSigns) (h : slashComment rest = .ok r) : StepsTo c s r := by
  unfold slashComment at h
  split at h <;> exact stepsTo_of_blockComment hsign h

theorem mem_commentSigns_of_startsLineComment {c : Char} {s : List Char} (h : startsLineComment c s = true) :
    c ∈ commentSigns := by
  unfold startsLineComment at h
  split at h
  case h_1 | h_2 | h_3 => decide
  case h_4 => cases h

theorem stepsTo_of_opening? {c : Char} {s : List Char} {r : Step} (hblank : isBlank c = false)
    (h : opening? c s = some (.ok r)) : StepsTo c s r := by
  unfold opening? at h
  split at h
  case h_1 => cases h
  case h_2 =>
      split at h
      case h_1 => exact stepsTo_of_slashComment (by decide) (Option.some.inj h)
      case h_2 => exact stepsTo_of_blockComment (by decide) (Option.some.inj h)
      case h_3 | h_4 | h_5 | h_6 => exact stepsTo_of_numeralString hblank (by decide) (Option.some.inj h)
      case h_7 | h_8 | h_9 | h_10 => exact stepsTo_of_quotation hblank (by decide) (Option.some.inj h)
      case h_11 => cases h

theorem stepsTo_of_step {c : Char} {s : List Char} {r : Step} (hstep : step c s = .ok r) : StepsTo c s r := by
  unfold step at hstep
  by_cases hblank : isBlank c = true
  · rw [if_pos hblank] at hstep
    cases hstep
    exact .blank hblank
  rw [if_neg hblank] at hstep
  rw [Bool.not_eq_true] at hblank
  by_cases hdigit : isDigit c = true
  · rw [if_pos hdigit] at hstep
    cases hstep
    exact stepsTo_numeral hblank
  rw [if_neg hdigit] at hstep
  by_cases hquoted : (c == '\x60') = true
  · rw [if_pos hquoted] at hstep
    exact stepsTo_of_quotation hblank (by decide) hstep
  rw [if_neg hquoted] at hstep
  by_cases hstring : (c == '\'' || c == '"') = true
  · rw [if_pos hstring] at hstep
    exact stepsTo_of_quotation hblank (by decide) hstep
  rw [if_neg hstring] at hstep
  by_cases hline : startsLineComment c s = true
  · rw [if_pos hline] at hstep
    cases hstep
    exact .comment (mem_commentSigns_of_startsLineComment hline)
  rw [if_neg hline] at hstep
  split at hstep
  case h_1 found hopening => exact stepsTo_of_opening? hblank (hstep ▸ hopening)
  case h_2 =>
      cases hstep
      split
      · exact stepsTo_symbol hblank
      · exact .word hblank

theorem blank_or_sign_of_stepsTo {c : Char} {s : List Char} {n : Nat} (h : StepsTo c s (.skip n)) :
    (isBlank c = true ∧ n = 0) ∨ c ∈ commentSigns := by
  generalize hr : Step.skip n = r at h
  cases h with
  | blank hblank =>
      cases hr
      exact .inl ⟨hblank, rfl⟩
  | comment hsign => exact .inr hsign
  | number | other => cases hr
  | word =>
      rw [word] at hr
      split at hr <;> cases hr

theorem isBlank_eq_false_of_stepsTo {c : Char} {s : List Char} {kind : TokenKind} {text : String} {n : Nat}
    (h : StepsTo c s (.token kind text n)) : isBlank c = false := by
  generalize hr : Step.token kind text n = r at h
  cases h with
  | blank | comment => cases hr
  | number hblank | word hblank | other hblank => exact hblank

/-! ### Words -/

theorem endsWord_drop_takeWhile {s : List Char} {continues : Char → Bool}
    (hends : ∀ c, continues c = false → isBlank c = true ∨ c ∈ singleSymbols) :
    EndsWord (s.drop (s.takeWhile continues).length) := by
  have hdrop : s.drop (s.takeWhile continues).length = s.dropWhile continues := by
    have hsplit := congrArg (List.drop (s.takeWhile continues).length)
      (List.takeWhile_append_dropWhile : s.takeWhile continues ++ s.dropWhile continues = s)
    rw [List.drop_left] at hsplit
    exact hsplit.symm
  intro c hc
  rw [hdrop] at hc
  have hstop := List.head?_dropWhile_not continues s
  rw [Option.mem_def.mp hc] at hstop
  exact hends c hstop

theorem endsWord_drop_wordLength (s : List Char) : EndsWord (s.drop (wordLength s)) := by
  apply endsWord_drop_takeWhile
  intro c hc
  by_cases hblank : isBlank c = true
  · exact .inl hblank
  · right
    simp only [hblank, Bool.not_false, Bool.true_and, Bool.or_eq_false_iff, decide_eq_false_iff_not,
      not_not] at hc
    exact hc.2

theorem endsWord_drop_numeralLength (s : List Char) : EndsWord (s.drop (numeralLength s)) := by
  apply endsWord_drop_takeWhile
  intro c hc
  by_cases hblank : isBlank c = true
  · exact .inl hblank
  · right
    simpa [hblank] using hc

theorem of_phrase?_eq_some {s : List Char} {phrase : String} {n : Nat} (h : phrase? s = some (phrase, n)) :
    phrase ∈ keyPhrases ∧ phraseLength? phrase.toList s = some n := by
  obtain ⟨found, hmem, hfound⟩ := List.exists_of_findSome?_eq_some h
  rw [Option.bind_eq_bind, Option.bind_eq_some_iff] at hfound
  obtain ⟨length, hlength, hfound⟩ := hfound
  rw [Option.bind_eq_bind, Option.bind_eq_some_iff] at hfound
  obtain ⟨-, -, heq⟩ := hfound
  cases heq
  exact ⟨hmem, hlength⟩

/-- A word is a key phrase or goes as far as it can. -/
theorem word_of_stepsTo {c : Char} {s : List Char} {text : String} {n : Nat}
    (h : StepsTo c s (.token .word text n)) :
    text ∈ keyPhrases ∨ (text = .ofList (c :: s.take n) ∧ EndsWord (s.drop n)) := by
  generalize hr : Step.token .word text n = r at h
  cases h with
  | blank | comment => cases hr
  | other hblank hkind =>
      cases hr
      exact absurd rfl hkind
  | number hblank =>
      cases hletter : (numberLength false 0 s).2 with
      | false => simp [number, hletter] at hr
      | true =>
          simp only [number, hletter, if_true, Step.token.injEq, true_and] at hr
          obtain ⟨rfl, rfl⟩ := hr
          refine .inr ⟨rfl, ?_⟩
          rw [← List.drop_drop]
          exact endsWord_drop_numeralLength _
  | word =>
      rw [word] at hr
      split at hr
      case h_1 phrase length hphrase =>
          cases hr
          exact .inl ((of_phrase?_eq_some hphrase).1)
      case h_2 =>
          cases hr
          exact .inr ⟨rfl, endsWord_drop_wordLength s⟩

/-! ### A whole run -/

/-- A run of the lexer over a text that `skipped` stands before, and what follows its last token. -/
inductive Lexes : List Char → List Char → List Token → List Char → Prop
  | done {skipped : List Char} : Lexes skipped [] [] skipped
  | skip {skipped s tail : List Char} {c : Char} {n : Nat} {tokens : List Token}
      (hstep : StepsTo c s (.skip n)) (hrest : Lexes (skipped ++ c :: s.take n) (s.drop n) tokens tail) :
      Lexes skipped (c :: s) tokens tail
  | token {skipped s tail : List Char} {c : Char} {kind : TokenKind} {text : String} {n : Nat}
      {tokens : List Token}
      (hstep : StepsTo c s (.token kind text n)) (hrest : Lexes [] (s.drop n) tokens tail) :
      Lexes skipped (c :: s) ({ kind, text, skipped, source := c :: s.take n } :: tokens) tail

theorem lexes_of_tokensAfter {skipped s tail : List Char} {tokens : List Token}
    (h : tokensAfter skipped s = .ok (tokens, tail)) : Lexes skipped s tokens tail := by
  fun_induction tokensAfter skipped s generalizing tokens tail with
  | case1 skipped =>
      cases h
      exact .done
  | case2 => cases h
  | case3 skipped c s n hstep ih => exact .skip (stepsTo_of_step hstep) (ih h)
  | case4 => cases h
  | case5 skipped c s kind text n hstep tokens tail hrest ih =>
      cases h
      exact .token (stepsTo_of_step hstep) (ih hrest)

/-- The tokens with what was skipped before them, and the tail, are the text. -/
theorem read_of_lexes {skipped s tail : List Char} {tokens : List Token} (h : Lexes skipped s tokens tail) :
    Token.read tokens ++ tail = skipped ++ s := by
  induction h with
  | done => simp [Token.read]
  | skip hstep hrest ih => rw [ih]; simp
  | token hstep hrest ih =>
      rw [List.nil_append] at ih
      simp only [Token.read, List.flatMap_cons, List.append_assoc] at ih ⊢
      rw [ih]
      simp

theorem isGap_nil : IsGap [] := by
  intro c hc
  simp [trimLeft] at hc

theorem isBlank_of_mem_commentSigns {c : Char} (hc : c ∈ commentSigns) : isBlank c = false := by
  have hcheck : ∀ d ∈ commentSigns, isBlank d = false := Text.forall_mem_of_all (by decide)
  exact hcheck c hc

/-- A gap goes on as one whatever a step skips. -/
theorem isGap_append {skipped s : List Char} {c : Char} {n : Nat} (hgap : IsGap skipped)
    (hstep : StepsTo c s (.skip n)) : IsGap (skipped ++ c :: s.take n) := by
  intro d hd
  rw [trimLeft, List.dropWhile_append] at hd
  split at hd
  case isTrue =>
      obtain ⟨hblank, rfl⟩ | hsign := blank_or_sign_of_stepsTo hstep
      · simp [hblank] at hd
      · have hhead : c = d := by simpa [isBlank_of_mem_commentSigns hsign] using hd
        exact hhead ▸ hsign
  case isFalse hrest =>
      rw [List.isEmpty_iff] at hrest
      rw [List.head?_append_of_ne_nil _ hrest] at hd
      exact hgap d hd

/-- What the lexer promises of one token. -/
structure WellLexed (t : Token) : Prop where
  gap : IsGap t.skipped
  source : ∃ c rest, t.source = c :: rest ∧ isBlank c = false
  word : t.kind = .word → t.text ∈ keyPhrases ∨ t.text = .ofList t.source

/-- What the lexer promises of a token and the one behind it. -/
def Follows (a b : Token) : Prop :=
  a.kind = .word → a.text ∉ keyPhrases → EndsWord (b.skipped ++ b.source)

theorem wellLexed_of_lexes {skipped s tail : List Char} {tokens : List Token} (h : Lexes skipped s tokens tail)
    (hgap : IsGap skipped) : ∀ t ∈ tokens, WellLexed t := by
  induction h with
  | done => simp
  | skip hstep hrest ih => exact ih (isGap_append hgap hstep)
  | token hstep hrest ih =>
      rintro t (_ | ⟨_, ht⟩)
      · refine ⟨hgap, ⟨_, _, rfl, isBlank_eq_false_of_stepsTo hstep⟩, ?_⟩
        rintro rfl
        exact (word_of_stepsTo hstep).imp_right And.left
      · exact ih isGap_nil t ht

theorem isChain_of_lexes {skipped s tail : List Char} {tokens : List Token} (h : Lexes skipped s tokens tail) :
    tokens.IsChain Follows := by
  induction h with
  | done => exact .nil
  | skip hstep hrest ih => exact ih
  | @token skipped s tail c kind text n tokens hstep hrest ih =>
      cases tokens with
      | nil => exact .singleton _
      | cons next tokens =>
          refine .cons_cons ?_ ih
          rintro rfl hphrase
          obtain ⟨-, hends⟩ := (word_of_stepsTo hstep).resolve_left hphrase
          have hread := read_of_lexes hrest
          have hnext := wellLexed_of_lexes hrest isGap_nil next List.mem_cons_self
          obtain ⟨first, rest, hsource, -⟩ := hnext.source
          rw [List.nil_append, Token.read, List.flatMap_cons, List.append_assoc] at hread
          rw [← hread, EndsWord, List.head?_append_of_ne_nil _ (by simp [hsource])] at hends
          exact hends

end GormModels.Sql.Mysql.Lexer

namespace GormModels.Sql.Mysql

open Lexer

/-! ### Tokens with comments -/

/-- A token without its comments. -/
def bare (t : Token) : Token := { t with comments := [] }

theorem map_bare_attachComments (first : Bool) (tail : List Char) (tokens : List Token) :
    (attachComments first tail tokens).2.map bare = tokens.map bare := by
  induction tokens generalizing first with
  | nil => rfl
  | cons t tokens ih =>
      have htail := ih false
      simp only [attachComments]
      split
      · simpa [bare] using htail
      · simpa [bare] using htail

theorem wellLexed_bare_iff {t : Token} : WellLexed (bare t) ↔ WellLexed t :=
  ⟨fun h => ⟨h.gap, h.source, h.word⟩, fun h => ⟨h.gap, h.source, h.word⟩⟩

/-- What the lexer promises does not depend on comments. -/
theorem wellLexed_of_map_bare_eq {tokens tokens' : List Token}
    (hbare : tokens'.map bare = tokens.map bare) (h : ∀ t ∈ tokens, WellLexed t) :
    ∀ t ∈ tokens', WellLexed t := by
  intro t ht
  have hmem : bare t ∈ tokens.map bare := hbare ▸ List.mem_map_of_mem ht
  obtain ⟨t', ht', heq⟩ := List.mem_map.mp hmem
  rw [← wellLexed_bare_iff, ← heq, wellLexed_bare_iff]
  exact h t' ht'

theorem isChain_of_map_bare_eq {tokens tokens' : List Token}
    (hbare : tokens'.map bare = tokens.map bare) (h : tokens.IsChain Follows) :
    tokens'.IsChain Follows := by
  have hchain : (tokens.map bare).IsChain Follows := by
    rw [List.isChain_map]
    exact h
  rw [← hbare, List.isChain_map] at hchain
  exact hchain

/-! ### Variables -/

section

variable {behindSign : Bool} {t : Token}

@[simp]
theorem skipped_nameVariable : (nameVariable behindSign t).skipped = t.skipped := by
  unfold nameVariable
  split <;> rfl

@[simp]
theorem source_nameVariable : (nameVariable behindSign t).source = t.source := by
  unfold nameVariable
  split <;> rfl

@[simp]
theorem text_nameVariable : (nameVariable behindSign t).text = t.text := by
  unfold nameVariable
  split <;> rfl

theorem kind_of_nameVariable (h : (nameVariable behindSign t).kind = .word) : t.kind = .word := by
  unfold nameVariable at h
  split at h
  case isTrue => cases h
  case isFalse => exact h

@[simp]
theorem isSymbol_nameVariable (symbol : String) : (nameVariable behindSign t).isSymbol symbol = t.isSymbol symbol := by
  unfold nameVariable
  split
  case isTrue hword =>
      simp only [Bool.and_eq_true, beq_iff_eq] at hword
      simp only [Token.isSymbol, hword.1.2]
      rfl
  case isFalse => rfl

end

theorem wellLexed_nameVariables {tokens : List Token} (h : ∀ t ∈ tokens, WellLexed t) (behindSign : Bool) :
    ∀ t ∈ nameVariables behindSign tokens, WellLexed t := by
  induction tokens generalizing behindSign with
  | nil => simp [nameVariables]
  | cons t tokens ih =>
      obtain ⟨ht, htokens⟩ := List.forall_mem_cons.mp h
      refine List.forall_mem_cons.mpr ⟨⟨?_, ?_, fun hword => ?_⟩, ih htokens _⟩
      · simpa using ht.gap
      · simpa using ht.source
      · simpa using ht.word (kind_of_nameVariable hword)

theorem isChain_nameVariables {tokens : List Token} (h : tokens.IsChain Follows) (behindSign : Bool) :
    (nameVariables behindSign tokens).IsChain Follows := by
  induction tokens generalizing behindSign with
  | nil => exact .nil
  | cons t tokens ih =>
      cases tokens with
      | nil => exact .singleton _
      | cons next tokens =>
          obtain ⟨hfollows, hrest⟩ := List.isChain_cons_cons.mp h
          refine .cons_cons (fun hword hphrase => ?_) (ih hrest _)
          rw [text_nameVariable] at hphrase
          simpa using hfollows (kind_of_nameVariable hword) hphrase

theorem wellLexed_of_tokenize {text : List Char} {tokens : List Token} (h : tokenize text = .ok tokens) :
    (∀ t ∈ tokens, WellLexed t) ∧ tokens.IsChain Follows := by
  rw [tokenize] at h
  split at h
  case h_1 lexed tail hlexed =>
      cases h
      have hrun := lexes_of_tokensAfter hlexed
      have hbare := map_bare_attachComments true tail lexed
      exact ⟨wellLexed_nameVariables (wellLexed_of_map_bare_eq hbare (wellLexed_of_lexes hrun isGap_nil)) false,
        isChain_nameVariables (isChain_of_map_bare_eq hbare (isChain_of_lexes hrun)) false⟩
  case h_2 => cases h

/-! ### Texts -/

theorem map_token_placeFrom (start : Nat) (p : Position) (previous : Char) (tokens : List Token) :
    (PlacedToken.placeFrom start p previous tokens).map (·.token) = tokens := by
  induction tokens generalizing start p previous with
  | nil => rfl
  | cons t tokens ih =>
      simp only [PlacedToken.placeFrom, List.map_cons]
      rw [ih]

theorem tokensOf_eq_ok_iff_tokenize {text : String} {tokens : List Token} :
    tokensOf text = .ok tokens ↔ tokenize text.toList = .ok tokens := by
  rw [tokensOf_eq_ok_iff]
  change (∃ placed, placedTokens text = .ok placed ∧ placed.map (·.token) = tokens) ↔ _
  rw [placedTokens]
  cases tokenize text.toList with
  | error place => simp
  | ok found =>
      simp only [Except.ok.injEq, exists_eq_left', PlacedToken.place]
      rw [map_token_placeFrom]

section

variable {t next : Token} {word : String} (hmem : word ∈ headWords) (hword : t.isWord word = true)

include hmem hword

theorem text_not_mem_keyPhrases : t.text ∉ keyPhrases := by
  have hcheck : ∀ word ∈ headWords, ∀ phrase ∈ keyPhrases, Text.upperText phrase ≠ word := by decide +kernel
  intro hphrase
  simp only [Token.isWord, Bool.and_eq_true, beq_iff_eq] at hword
  exact hcheck word hmem _ hphrase hword.2

theorem upper_source_of_wellLexed (hlexed : WellLexed t) : Text.upper t.source = word.toList := by
  have hnot := text_not_mem_keyPhrases hmem hword
  simp only [Token.isWord, Bool.and_eq_true, beq_iff_eq] at hword
  have htext := (hlexed.word hword.1).resolve_left hnot
  rw [← hword.2, htext, Text.upperText, String.toList_ofList, String.toList_ofList]

theorem head?_any_isWordChar_of_follows (hfollows : Follows t next) :
    (next.skipped ++ next.source).head?.any Text.isWordChar = false := by
  have hsymbols : ∀ c ∈ singleSymbols, Text.isWordChar c = false := Text.forall_mem_of_all (by decide)
  have hkind : t.kind = .word := by
    simp only [Token.isWord, Bool.and_eq_true, beq_iff_eq] at hword
    exact hword.1
  have hends := hfollows hkind (text_not_mem_keyPhrases hmem hword)
  cases hhead : (next.skipped ++ next.source).head? with
  | none => rfl
  | some c =>
      obtain hblank | hsymbol := hends c (Option.mem_def.mpr hhead)
      · exact Text.isWordChar_of_isBlank hblank
      · exact hsymbols c hsymbol

end

instance : LexesWords where
  lexed h := by
    obtain ⟨hlexed, hchain⟩ := wellLexed_of_tokenize (tokensOf_eq_ok_iff_tokenize.mp h)
    exact {
      gap := fun t ht => (hlexed t ht).gap
      solid := fun t ht => by
        obtain ⟨c, rest, hsource, -⟩ := (hlexed t ht).source
        simp [hsource]
      source := fun t ht _ hmem hword => upper_source_of_wellLexed hmem hword (hlexed t ht)
      stops := hchain.imp fun _ _ hfollows _ hmem hword => head?_any_isWordChar_of_follows hmem hword hfollows }

end GormModels.Sql.Mysql
