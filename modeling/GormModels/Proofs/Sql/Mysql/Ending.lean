import Mathlib.Data.Option.Basic
import GormModels.Proofs.Sql.Mysql.Lexer
import GormModels.Proofs.Text.Join

/-!
# Reading up to an end

A line feed at the end of a text and a semicolon are no part of any word, number, operator or key phrase, and
they end no quotation. What is found before such an end is found without what stands there, and is no longer
than the text before it.
-/

namespace GormModels.Sql.Mysql.Lexer

open Text

/-- The characters that no token goes on with. -/
def endSigns : List Char := ['\n', ';']

/-- What ends every token before it: a line feed with nothing behind it, or a semicolon. -/
inductive IsEnd : List Char → Prop
  | newline : IsEnd ['\n']
  | semicolon {rest : List Char} : IsEnd (';' :: rest)

theorem IsEnd.head {e : List Char} (h : IsEnd e) : ∃ d rest, e = d :: rest ∧ d ∈ endSigns := by
  cases h with
  | newline => exact ⟨_, _, rfl, by decide⟩
  | semicolon => exact ⟨_, _, rfl, by decide⟩

/-! ### Runs of characters -/

theorem takeWhile_append_of_mem {α : Type} {continues : α → Bool} {c : α} {s : List α} (hc : c ∈ s)
    (hstop : continues c = false) (e : List α) : (s ++ e).takeWhile continues = s.takeWhile continues := by
  obtain ⟨before, after, rfl⟩ := List.mem_iff_append.mp hc
  rw [List.append_assoc, List.cons_append, takeWhile_append_of_head hstop, takeWhile_append_of_head hstop]

section

variable {d : Char} (hend : d ∈ endSigns)

include hend

theorem wordLength_append (s e : List Char) : wordLength (s ++ d :: e) = wordLength s := by
  have hstop : ∀ c ∈ endSigns, (!isBlank c && (c == '@' || decide (c ∉ singleSymbols))) = false :=
    forall_mem_of_all (by decide)
  exact congrArg List.length (takeWhile_append_of_head (by exact hstop d hend) s e)

theorem numeralLength_append (s e : List Char) : numeralLength (s ++ d :: e) = numeralLength s := by
  have hstop : ∀ c ∈ endSigns, (!isBlank c && decide (c ∉ singleSymbols)) = false :=
    forall_mem_of_all (by decide)
  exact congrArg List.length (takeWhile_append_of_head (by exact hstop d hend) s e)

/-! ### Numbers -/

theorem numberLength_end (point : Bool) (exponent : Nat) (e : List Char) :
    numberLength point exponent (d :: e) = (0, false) := by
  have hstop : ∀ c ∈ endSigns,
      isDigit c = false ∧ isIdentifierStart c = false ∧ c ∉ ['.', '-', '+', 'e', 'E'] :=
    forall_mem_of_all (by decide)
  obtain ⟨hdigit, hstart, hsign⟩ := hstop d hend
  simp only [List.mem_cons, not_or] at hsign
  simp [numberLength, hdigit, hstart, hsign]

theorem numberLength_append (point : Bool) (exponent : Nat) (s e : List Char) :
    numberLength point exponent (s ++ d :: e) = numberLength point exponent s := by
  induction s generalizing point exponent with
  | nil =>
      rw [List.nil_append, numberLength_end hend]
      rfl
  | cons c s ih =>
      have hdigit : ∀ c ∈ endSigns, isDigit c = false := forall_mem_of_all (by decide)
      rw [List.cons_append, numberLength.eq_def, numberLength.eq_def point exponent (c :: s)]
      simp only [ih]
      cases s with
      | nil => simp [hdigit d hend]
      | cons next s => rfl

end

theorem numberLength_le (point : Bool) (exponent : Nat) (s : List Char) :
    (numberLength point exponent s).1 ≤ s.length := by
  fun_induction numberLength point exponent s <;> simp_all [numberLength.further]

theorem wordLength_le (s : List Char) : wordLength s ≤ s.length := (List.takeWhile_prefix _).length_le

theorem numeralLength_le (s : List Char) : numeralLength s ≤ s.length := (List.takeWhile_prefix _).length_le

/-- A number goes as far as its digits and, with a letter behind them, as far as a name. -/
theorem number_le (s : List Char) :
    (numberLength false 0 s).1 + numeralLength (s.drop (numberLength false 0 s).1) ≤ s.length := by
  have hdigits := numberLength_le false 0 s
  have hletters := numeralLength_le (s.drop (numberLength false 0 s).1)
  rw [List.length_drop] at hletters
  omega

/-! ### Key phrases -/

/-- A phrase as the vocabulary has them: no sign of an end in it, and no blank at its own. -/
structure IsPhrase (phrase : List Char) : Prop where
  signs : ∀ p ∈ phrase, p ∉ endSigns
  last : phrase.getLast? ≠ some ' '

theorem isPhrase_of_mem {phrase : String} (h : phrase ∈ keyPhrases) : IsPhrase phrase.toList := by
  have hcheck : ∀ phrase ∈ keyPhrases,
      phrase.toList.all (· ∉ endSigns) = true ∧ phrase.toList.getLast? ≠ some ' ' := by
    decide +kernel
  obtain ⟨hsigns, hlast⟩ := hcheck phrase h
  exact ⟨by simpa using hsigns, hlast⟩

theorem IsPhrase.tail {p : Char} {phrase : List Char} (h : IsPhrase (p :: phrase)) : IsPhrase phrase := by
  refine ⟨fun q hq => h.signs q (List.mem_cons_of_mem _ hq), ?_⟩
  cases phrase with
  | nil => simp
  | cons q phrase => simpa using h.last

theorem IsPhrase.ne_nil {phrase : List Char} (h : IsPhrase (' ' :: phrase)) : phrase ≠ [] := by
  rintro rfl
  exact h.last rfl

theorem phraseLength?_nil {phrase : List Char} (h : phrase ≠ []) : phraseLength? phrase [] = none := by
  cases phrase with
  | nil => exact absurd rfl h
  | cons p phrase => rw [phraseLength?]

theorem upperChar_of_mem_endSigns {d : Char} (hend : d ∈ endSigns) : upperChar d = [d] := by
  have hcheck : ∀ c ∈ endSigns, upperChar c = [c] := forall_mem_of_all (by decide)
  exact hcheck d hend

section

variable {e : List Char} (he : IsEnd e)

include he

theorem phraseLength?_append {phrase : List Char} (hphrase : IsPhrase phrase) (s : List Char) :
    phraseLength? phrase (s ++ e) = phraseLength? phrase s := by
  fun_induction phraseLength? phrase s with
  | case1 s => rw [phraseLength?]
  | case2 phrase c s hblank blanks ih =>
      rw [List.cons_append, phraseLength?, if_pos hblank]
      by_cases hall : e = ['\n'] ∧ ∀ c ∈ s, isBlank c = true
      · -- the line feed is read with the blanks before it, and nothing is left for the rest of the phrase
        obtain ⟨rfl, hall⟩ := hall
        have hs : s.takeWhile isBlank = s := List.takeWhile_eq_self_iff.mpr hall
        have hboth : (s ++ ['\n']).takeWhile isBlank = s ++ ['\n'] := by
          rw [List.takeWhile_append_of_pos hall]
          rfl
        simp only [blanks, hs, hboth, List.drop_length, phraseLength?_nil hphrase.ne_nil, Option.map_none]
      · have hsame : (s ++ e).takeWhile isBlank = s.takeWhile isBlank := by
          cases he with
          | newline =>
              simp only [true_and, not_forall] at hall
              obtain ⟨c, hc, hstop⟩ := hall
              exact takeWhile_append_of_mem hc (by simpa using hstop) _
          | semicolon => exact takeWhile_append_of_head (by decide) _ _
        have hle : blanks ≤ s.length := (List.takeWhile_prefix _).length_le
        simp only [hsame]
        rw [List.drop_append_of_le_length hle, ih hphrase.tail]
  | case3 phrase c s hblank => rw [List.cons_append, phraseLength?, if_neg hblank]
  | case4 p phrase c s hp hmatch ih =>
      rw [List.cons_append, phraseLength?, if_pos hmatch, ih hphrase.tail]
      exact hp
  | case5 p phrase c s hp hmatch =>
      rw [List.cons_append, phraseLength?, if_neg hmatch]
      exact hp
  | case6 p phrase =>
      rw [List.nil_append]
      by_cases hp : p = ' '
      · subst hp
        cases he with
        | newline =>
            rw [phraseLength?, if_pos (by decide)]
            simp only [List.drop_nil, phraseLength?_nil hphrase.ne_nil, Option.map_none]
        | semicolon => rw [phraseLength?, if_neg (by decide)]
      · obtain ⟨d, rest, rfl, hend⟩ := he.head
        have hne : ¬(upperChar d == [p]) = true := by
          rw [upperChar_of_mem_endSigns hend, beq_iff_eq, List.cons.injEq]
          rintro ⟨rfl, -⟩
          exact hphrase.signs _ List.mem_cons_self hend
        rw [phraseLength?, if_neg hne]
        exact hp

theorem endsPhrase_append (s : List Char) : endsPhrase (s ++ e) = endsPhrase s := by
  have hcheck : ∀ c ∈ endSigns, (isBlank c || decide (c ∈ singleSymbols)) = true :=
    forall_mem_of_all (by decide)
  obtain ⟨d, rest, rfl, hend⟩ := he.head
  cases s with
  | nil => exact hcheck d hend
  | cons c s => rfl

end

theorem phraseLength?_le (phrase s : List Char) : ∀ n, phraseLength? phrase s = some n → n ≤ s.length := by
  fun_induction phraseLength? phrase s with
  | case1 s =>
      rintro n ⟨⟩
      exact Nat.zero_le _
  | case2 phrase c s hblank blanks ih =>
      intro n h
      obtain ⟨m, hm, rfl⟩ := Option.map_eq_some_iff.mp h
      have hle : blanks ≤ s.length := (List.takeWhile_prefix _).length_le
      have hrest := ih m hm
      rw [List.length_drop] at hrest
      rw [List.length_cons]
      omega
  | case4 p phrase c s hp hmatch ih =>
      intro n h
      obtain ⟨m, hm, rfl⟩ := Option.map_eq_some_iff.mp h
      exact Nat.succ_le_succ (ih m hm)
  | case3 | case5 | case6 =>
      intro n h
      cases h

theorem phrase?_le {s : List Char} {phrase : String} {n : Nat} (h : phrase? s = some (phrase, n)) :
    n ≤ s.length :=
  phraseLength?_le _ _ _ (of_phrase?_eq_some h).2

theorem findSome?_congr {α β : Type} {f g : α → Option β} {xs : List α} (h : ∀ x ∈ xs, f x = g x) :
    xs.findSome? f = xs.findSome? g := by
  induction xs with
  | nil => rfl
  | cons x xs ih =>
      rw [List.findSome?_cons, List.findSome?_cons, h x List.mem_cons_self,
        ih fun y hy => h y (List.mem_cons_of_mem _ hy)]

theorem phrase?_append {e : List Char} (he : IsEnd e) (s : List Char) : phrase? (s ++ e) = phrase? s := by
  refine findSome?_congr fun phrase hphrase => ?_
  rw [phraseLength?_append he (isPhrase_of_mem hphrase)]
  cases hlength : phraseLength? phrase.toList s with
  | none => rfl
  | some n =>
      have hle := phraseLength?_le _ _ _ hlength
      simp only [Option.bind_eq_bind, Option.bind_some, List.drop_append_of_le_length hle, endsPhrase_append he]

/-! ### Operators -/

/-- What has no sign of an end in it stands before that end or not at all. -/
theorem isPrefixOf_append {d : Char} {symbol : List Char} (hsymbol : d ∉ symbol) (s e : List Char) :
    symbol.isPrefixOf (s ++ d :: e) = symbol.isPrefixOf s := by
  induction symbol generalizing s with
  | nil => simp
  | cons p symbol ih =>
      rw [List.mem_cons, not_or] at hsymbol
      obtain ⟨hp, hsymbol⟩ := hsymbol
      cases s with
      | nil => simp [List.isPrefixOf, Ne.symm hp]
      | cons c s => simp only [List.cons_append, List.isPrefixOf, ih hsymbol]

theorem longSymbol?_append {e : List Char} (he : IsEnd e) (s : List Char) :
    longSymbol? (s ++ e) = longSymbol? s := by
  have hcheck : ∀ symbol ∈ longSymbols, symbol.toList.all (· ∉ endSigns) = true := by decide
  obtain ⟨d, rest, rfl, hend⟩ := he.head
  rw [longSymbol?, longSymbol?]
  congr 1
  refine List.filter_congr fun symbol hsymbol => isPrefixOf_append ?_ s rest
  intro hd
  simpa [hend] using List.all_eq_true.mp (hcheck symbol hsymbol) d hd

theorem longSymbol?_le {s : List Char} {symbol : String} (h : longSymbol? s = some symbol) :
    symbol.length ≤ s.length := by
  refine List.foldlRecOn _ _ (motive := fun best => ∀ b, best = some b → b.length ≤ s.length) (by simp) ?_
    symbol h
  intro best hbest found hfound b hb
  have hprefix := List.isPrefixOf_iff_prefix.mp (List.mem_filter.mp hfound).2
  have hle : found.length ≤ s.length := hprefix.length_le
  split at hb
  · split at hb
    · cases hb
      exact hle
    · exact hbest b hb
  · cases hb
    exact hle

/-! ### Quotations and comments -/

/-- What is found is found as well in more text, and it takes no more than `length` characters. -/
def Extends {α : Type} (taken : α → Nat) (length : Nat) (found found' : Except Stop α) : Prop :=
  ∀ a, found = .ok a → found' = .ok a ∧ taken a ≤ length

namespace Extends

variable {α : Type} {taken : α → Nat} {length : Nat} {found' : Except Stop α}

theorem error {stop : Stop} : Extends taken length (.error stop) found' := by
  intro a h
  cases h

theorem ok {a : α} (hle : taken a ≤ length) : Extends taken length (.ok a) (.ok a) := by
  intro b h
  cases h
  exact ⟨rfl, hle⟩

end Extends

theorem Extends.before {length taken more : Nat} {found found' : Except Stop (List Char × Nat)}
    (h : Extends Prod.snd length found found') (content : List Char) (hmore : length + taken ≤ more) :
    Extends Prod.snd more (Lexer.before content taken found) (Lexer.before content taken found') := by
  intro both hboth
  cases found with
  | error => cases hboth
  | ok pair =>
      obtain ⟨hfound', hle⟩ := h pair rfl
      cases hboth
      rw [hfound']
      exact ⟨rfl, by dsimp only; omega⟩

/-- A quotation that ends does so whatever stands behind it but another quotation mark. -/
theorem stringBody_extends {d quote : Char} (hquote : d ≠ quote) (s e : List Char) :
    Extends Prod.snd s.length (stringBody quote s) (stringBody quote (s ++ d :: e)) := by
  fun_induction stringBody quote s with
  | case1 | case2 | case4 | case7 | case9 => exact .error
  | case3 c hc hclose =>
      have hd : (d == c) = false := by
        rw [beq_iff_eq] at hclose
        simpa [hclose] using hquote
      rw [List.singleton_append, stringBody, if_neg hc, if_neg (by simp [hd]), if_pos hclose]
      exact .ok (by simp)
  | case5 c next rest hc escape hescape ih =>
      rw [List.cons_append, List.cons_append, stringBody, if_pos hc, hescape]
      exact ih.before _ (by simp)
  | case6 c next rest hc hescape hliteral ih =>
      rw [List.cons_append, List.cons_append, stringBody, if_pos hc, hescape]
      dsimp only
      rw [if_pos hliteral]
      exact ih.before _ (by simp)
  | case8 c next rest hc hescape hliteral hrest ih =>
      rw [List.cons_append, List.cons_append, stringBody, if_pos hc, hescape]
      dsimp only
      rw [if_neg hliteral, if_neg (by simp)]
      exact ih.before _ (by simp)
  | case10 c next rest hc htwice hrest ih =>
      rw [List.cons_append, List.cons_append, stringBody, if_neg hc, if_pos htwice,
        if_neg (by simp : ¬(rest ++ d :: e).isEmpty = true)]
      exact ih.before _ (by simp)
  | case11 c next rest hc htwice hclose =>
      rw [List.cons_append, List.cons_append, stringBody, if_neg hc, if_neg htwice, if_pos hclose]
      exact .ok (by simp)
  | case12 c next rest hc htwice hclose ih =>
      rw [List.cons_append, List.cons_append, stringBody, if_neg hc, if_neg htwice, if_neg hclose]
      exact ih.before _ (by simp)

theorem plainBody_extends {d quote : Char} (hquote : d ≠ quote) (s e : List Char) :
    Extends Prod.snd s.length (plainBody quote s) (plainBody quote (s ++ d :: e)) := by
  fun_induction plainBody quote s with
  | case1 | case3 | case4 => exact .error
  | case2 c hclose =>
      rw [List.singleton_append, plainBody, if_neg (by simp [hquote]), if_pos hclose]
      exact .ok (by simp)
  | case5 c next rest htwice hrest ih =>
      rw [List.cons_append, List.cons_append, plainBody, if_pos htwice,
        if_neg (by simp : ¬(rest ++ d :: e).isEmpty = true)]
      exact ih.before _ (by simp)
  | case6 c next rest htwice hclose =>
      rw [List.cons_append, List.cons_append, plainBody, if_neg htwice, if_pos hclose]
      exact .ok (by simp)
  | case7 c next rest htwice hclose ih =>
      rw [List.cons_append, List.cons_append, plainBody, if_neg htwice, if_neg hclose]
      exact ih.before _ (by simp)

/-- The number of characters behind the first that a step takes. -/
def Step.more : Step → Nat
  | skip n => n
  | token _ _ n => n

theorem Extends.quotation {length more opening : Nat} {found found' : Except Stop (List Char × Nat)}
    (h : Extends Prod.snd length found found') (kind : TokenKind) (hmore : opening - 1 + length ≤ more) :
    Extends Step.more more (quotation kind opening found) (quotation kind opening found') := by
  intro r hr
  cases found with
  | error => cases hr
  | ok pair =>
      obtain ⟨hfound', hle⟩ := h pair rfl
      cases hr
      rw [hfound']
      exact ⟨rfl, by simp only [Step.more]; omega⟩

theorem numeralString_extends {d : Char} (hquote : d ≠ '\'') (kind : TokenKind) (base : Nat) (s e : List Char) :
    Extends Step.more (s.length + 1) (numeralString kind base s) (numeralString kind base (s ++ d :: e)) := by
  intro r hr
  cases hbody : stringBody '\'' s with
  | error stop => simp [numeralString, hbody, bind, Except.bind] at hr
  | ok found =>
      obtain ⟨hbody', hle⟩ := stringBody_extends hquote s e found hbody
      simp only [numeralString, hbody, hbody', bind, Except.bind] at hr ⊢
      split at hr
      case isTrue hdigits =>
          cases hr
          rw [if_pos hdigits]
          exact ⟨rfl, Nat.succ_le_succ hle⟩
      case isFalse => cases hr

theorem blockEnd_append {close : Char × Char} {s : List Char} {n : Nat} (h : blockEnd close s = some n)
    (e : List Char) : blockEnd close (s ++ e) = some n ∧ n ≤ s.length := by
  fun_induction blockEnd close s generalizing n with
  | case1 | case2 => cases h
  | case3 c next rest hclose =>
      cases h
      rw [List.cons_append, List.cons_append, blockEnd, if_pos hclose]
      exact ⟨rfl, by simp⟩
  | case4 c next rest hclose ih =>
      obtain ⟨m, hm, rfl⟩ := Option.map_eq_some_iff.mp h
      obtain ⟨hmore, hle⟩ := ih hm
      rw [List.cons_append, List.cons_append, blockEnd, if_neg hclose, ← List.cons_append, hmore]
      exact ⟨rfl, Nat.succ_le_succ hle⟩

theorem blockComment_extends {opening more : Nat} {s : List Char} (hmore : opening - 1 + s.length ≤ more)
    (close : Char × Char) (e : List Char) :
    Extends Step.more more (blockComment opening close s) (blockComment opening close (s ++ e)) := by
  intro r hr
  cases hend : blockEnd close s with
  | none => simp [blockComment, hend] at hr
  | some n =>
      obtain ⟨hend', hle⟩ := blockEnd_append hend e
      simp only [blockComment, hend, hend'] at hr ⊢
      cases hr
      exact ⟨rfl, by simp only [Step.more]; omega⟩

theorem slashComment_extends (s e : List Char) :
    Extends Step.more (s.length + 1) (slashComment s) (slashComment (s ++ e)) := by
  have hplain : ∀ next s, next ≠ '+' → slashComment (next :: s) = blockComment 2 ('*', '/') (next :: s) := by
    intro next s hplus
    simp [slashComment, hplus]
  cases s with
  | nil => exact .error
  | cons next s =>
      by_cases hplus : next = '+'
      · subst hplus
        exact blockComment_extends (by simp; omega) _ _
      · rw [List.cons_append, hplain next _ hplus, hplain next _ hplus, ← List.cons_append]
        exact blockComment_extends (by simp; omega) _ _

end GormModels.Sql.Mysql.Lexer
