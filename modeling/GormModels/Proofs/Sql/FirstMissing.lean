import Mathlib.Data.Nat.Find
import GormModels.Proofs.Sql.EmptyItem

/-!
# Where the first list item is missing

The check for missing list items goes through the statements of a script and stops at the first fault. A semicolon
cuts it into two checks that know nothing of each other, and all that is said of a whole script follows from that: the
fault is the first one in the order of the tokens, and statements of another kind have no part in it.
-/

namespace GormModels.Sql

/-- Statements are what stands between semicolons, or between them and the ends of the script. -/
structure IsStatement (tokens before statement after : List PlacedToken) : Prop where
  split : tokens = before ++ statement ++ after
  start : ∀ t ∈ before.getLast?, t.token.isSemicolon = true
  inside : ∀ t ∈ statement, t.token.isSemicolon = false
  stop : ∀ t ∈ after.head?, t.token.isSemicolon = true

/-- A statement starts with CREATE and has TABLE as its second or third token. -/
def StartsTable (statement : List PlacedToken) : Prop :=
  (∃ t ∈ statement[0]?, t.token.isWord "CREATE" = true) ∧
    ∃ i ∈ [1, 2], ∃ t ∈ statement[i]?, t.token.isWord "TABLE" = true

/-- Two neighbours, of which the first stands behind `i` others, lack an item between them. -/
structure LacksItemAt (tokens : List PlacedToken) (i : Nat) (pair : PlacedToken × PlacedToken) : Prop where
  previous : tokens[i]? = some pair.1
  found : tokens[i + 1]? = some pair.2
  lacks : LacksItem pair.1.token pair.2.token

/-- Two neighbours in a script, of which the first stands behind `i` other tokens of it, lack an item between them and
are in one statement, which starts a table. -/
def MissingAt (tokens : List PlacedToken) (i : Nat) (pair : PlacedToken × PlacedToken) : Prop :=
  ∃ before statement after, IsStatement tokens before statement after ∧ StartsTable statement ∧
    ∃ j, i = before.length + j ∧ LacksItemAt statement j pair

/-! ### The first of many -/

section

variable {α : Type} {P Q R : Nat → α → Prop}

/-- Something holds of `a` at place `i`, and of nothing before it. -/
structure FirstAt (P : Nat → α → Prop) (i : Nat) (a : α) : Prop where
  here : P i a
  first : ∀ j b, P j b → i ≤ j

theorem exists_firstAt_iff : (∃ a i, FirstAt P i a) ↔ ∃ i a, P i a := by
  classical
  constructor
  · rintro ⟨a, i, hfirst⟩
    exact ⟨i, a, hfirst.here⟩
  · intro hsome
    obtain ⟨a, ha⟩ := Nat.find_spec hsome
    exact ⟨a, Nat.find hsome, ha, fun j b hb => Nat.find_min' hsome ⟨b, hb⟩⟩

/-- What is first in two parts is first in the one before, or in the one behind when there is none before it. -/
theorem exists_firstAt_append_iff {n : Nat} (hbefore : ∀ i a, P i a → i < n)
    (hparts : ∀ i a, R i a ↔ P i a ∨ ∃ j, i = n + j ∧ Q j a) {a : α} :
    (∃ i, FirstAt R i a) ↔ (∃ i, FirstAt P i a) ∨ (¬∃ i b, P i b) ∧ ∃ i, FirstAt Q i a := by
  constructor
  · rintro ⟨i, hhere, hfirst⟩
    obtain hP | ⟨j, rfl, hQ⟩ := (hparts i a).mp hhere
    · exact .inl ⟨i, hP, fun k b hk => hfirst k b ((hparts k b).mpr (.inl hk))⟩
    · refine .inr ⟨?_, j, hQ, fun k b hk => ?_⟩
      · rintro ⟨k, b, hk⟩
        have hle := hfirst k b ((hparts k b).mpr (.inl hk))
        have hlt := hbefore k b hk
        omega
      · have hle := hfirst (n + k) b ((hparts _ b).mpr (.inr ⟨k, rfl, hk⟩))
        omega
  · rintro (⟨i, hP, hfirst⟩ | ⟨hnone, j, hQ, hfirst⟩)
    · refine ⟨i, (hparts i a).mpr (.inl hP), fun k b hk => ?_⟩
      obtain hk | ⟨l, rfl, -⟩ := (hparts k b).mp hk
      · exact hfirst k b hk
      · have hlt := hbefore i a hP
        omega
    · refine ⟨n + j, (hparts _ a).mpr (.inr ⟨j, rfl, hQ⟩), fun k b hk => ?_⟩
      obtain hk | ⟨l, rfl, hl⟩ := (hparts k b).mp hk
      · exact absurd ⟨k, b, hk⟩ hnone
      · have hle := hfirst l b hl
        omega

/-- At the front only what holds there counts, and anything that does is first. -/
theorem exists_firstAt_cons_iff {Here : α → Prop} (hparts : ∀ i a, R i a ↔ (i = 0 ∧ Here a) ∨ ∃ j, i = 1 + j ∧ Q j a)
    {a : α} : (∃ i, FirstAt R i a) ↔ Here a ∨ (¬∃ b, Here b) ∧ ∃ i, FirstAt Q i a := by
  have hbefore : ∀ i b, i = 0 ∧ Here b → i < 1 := by
    rintro i b ⟨rfl, -⟩
    exact Nat.one_pos
  have hfront : (∃ i, FirstAt (fun i b => i = 0 ∧ Here b) i a) ↔ Here a :=
    ⟨fun ⟨_, hfirst⟩ => hfirst.here.2, fun ha => ⟨0, ⟨rfl, ha⟩, fun j _ _ => Nat.zero_le j⟩⟩
  rw [exists_firstAt_append_iff hbefore hparts, hfront]
  simp

end

/-! ### One statement -/

theorem startsTable_iff {statement : List PlacedToken} : startsTable statement = true ↔ StartsTable statement := by
  match statement with
  | [] => simp [startsTable, StartsTable]
  | [a] => simp [startsTable, StartsTable]
  | [a, b] => simp [startsTable, StartsTable]
  | a :: b :: c :: rest => simp [startsTable, StartsTable]

theorem lacksItemAt_cons_cons_iff {a b : PlacedToken} {rest : List PlacedToken} (i : Nat)
    (pair : PlacedToken × PlacedToken) :
    LacksItemAt (a :: b :: rest) i pair ↔
      (i = 0 ∧ pair = (a, b) ∧ LacksItem a.token b.token) ∨ ∃ j, i = 1 + j ∧ LacksItemAt (b :: rest) j pair := by
  constructor
  · rintro ⟨hprevious, hfound, hlacks⟩
    cases i with
    | zero =>
        obtain rfl := Option.some.inj hprevious
        obtain rfl := Option.some.inj hfound
        exact .inl ⟨rfl, rfl, hlacks⟩
    | succ j => exact .inr ⟨j, Nat.add_comm j 1, hprevious, hfound, hlacks⟩
  · rintro (⟨rfl, rfl, hlacks⟩ | ⟨j, rfl, hprevious, hfound, hlacks⟩)
    · exact ⟨rfl, rfl, hlacks⟩
    · rw [Nat.add_comm 1 j]
      exact ⟨hprevious, hfound, hlacks⟩

theorem exists_firstAt_cons_cons_iff {a b : PlacedToken} {rest : List PlacedToken}
    {pair : PlacedToken × PlacedToken} :
    (∃ i, FirstAt (LacksItemAt (a :: b :: rest)) i pair) ↔
      (pair = (a, b) ∧ LacksItem a.token b.token) ∨
        ¬LacksItem a.token b.token ∧ ∃ i, FirstAt (LacksItemAt (b :: rest)) i pair := by
  have hnone : (¬∃ other, other = (a, b) ∧ LacksItem a.token b.token) ↔ ¬LacksItem a.token b.token := by simp
  rw [exists_firstAt_cons_iff lacksItemAt_cons_cons_iff, hnone]

/-- The scan of a statement finds the first two neighbours that lack an item. -/
theorem missingItem?_eq_some_iff {statement : List PlacedToken} {pair : PlacedToken × PlacedToken} :
    missingItem? statement = some pair ↔ ∃ i, FirstAt (LacksItemAt statement) i pair := by
  fun_induction missingItem? statement with
  | case1 a b rest hmisses =>
      rw [missesItem_iff] at hmisses
      simp [exists_firstAt_cons_cons_iff, hmisses, eq_comm]
  | case2 a b rest hmisses ih =>
      rw [missesItem_iff] at hmisses
      simp [exists_firstAt_cons_cons_iff, hmisses, ih]
  | case3 statement hshort =>
      refine iff_of_false (Option.some_ne_none pair).symm ?_
      rintro ⟨i, ⟨hprevious, hfound, -⟩, -⟩
      obtain ⟨hlength, -⟩ := List.getElem?_eq_some_iff.mp hfound
      obtain _ | ⟨a, _ | ⟨b, rest⟩⟩ := statement
      · simp at hlength
      · simp at hlength
      · exact hshort a b rest rfl

theorem missingItem?_leading (t : PlacedToken) (rest : List PlacedToken) :
    (missingItem? (t.leading :: rest)).map (fun (a, b) => SqlError.emptyItem a.token.text b.token.text b.position) =
      (missingItem? (t :: rest)).map fun (a, b) => SqlError.emptyItem a.token.text b.token.text b.position := by
  cases rest with
  | nil => rfl
  | cons next rest =>
      have hsame : missesItem t.leading next = missesItem t next := rfl
      rw [missingItem?, missingItem?, hsame]
      split <;> rfl

theorem splitParts_of_forall {α : Type} {ends : α → Bool} {part xs : List α} (hpart : part ≠ [])
    (hxs : ∀ x ∈ xs, ends x = false) : splitParts ends part xs = [part.reverse ++ xs] := by
  induction xs generalizing part with
  | nil => simp [splitParts, hpart]
  | cons x xs ih =>
      obtain ⟨hx, hxs⟩ := List.forall_mem_cons.mp hxs
      rw [splitParts, hx, if_neg Bool.false_ne_true, ih (List.cons_ne_nil x part) hxs]
      simp

theorem emptyItem?_of_inside {statement : List PlacedToken} (hinside : ∀ t ∈ statement, t.token.isSemicolon = false) :
    emptyItem? statement = if startsTable statement then
      (missingItem? statement).map fun (a, b) => .emptyItem a.token.text b.token.text b.position else none := by
  cases statement with
  | nil => rfl
  | cons t rest =>
      obtain ⟨ht, hrest⟩ := List.forall_mem_cons.mp hinside
      have hstatements : statementsOf (t :: rest) = [t.leading :: rest] := by
        rw [statementsOf, splitParts, ht, if_neg Bool.false_ne_true, splitParts_of_forall (by simp) hrest]
        rfl
      have hstarts : startsTable (t.leading :: rest) = startsTable (t :: rest) := rfl
      rw [emptyItem?, hstatements, List.filter_cons, hstarts, ← missingItem?_leading]
      split <;> simp

/-! ### The statements of a script -/

/-- A semicolon keeps what stands before it apart from what stands behind it. -/
theorem emptyItem?_append {t : PlacedToken} (ht : t.token.isSemicolon = true) (xs ys : List PlacedToken) :
    emptyItem? (xs ++ t :: ys) = (emptyItem? xs).or (emptyItem? ys) := by
  have hparts := @splitParts_append PlacedToken (·.token.isSemicolon) t ht [] xs ys
  have hstatements : statementsOf (xs ++ t :: ys) = statementsOf xs ++ statementsOf ys := by
    rw [statementsOf, hparts, List.map_append]
    rfl
  rw [emptyItem?, hstatements, List.filter_append, List.findSome?_append]
  rfl

theorem append_cons_eq_append_iff {α : Type} {xs ys front back : List α} {a : α} :
    xs ++ a :: ys = front ++ back ↔
      (∃ rest, xs = front ++ rest ∧ back = rest ++ a :: ys) ∨ ∃ rest, front = xs ++ a :: rest ∧ ys = rest ++ back := by
  constructor
  · intro hsplit
    obtain ⟨rest, rfl, hrest⟩ | ⟨rest, rfl, rfl⟩ := List.append_eq_append_iff.mp hsplit
    · cases rest with
      | nil => exact .inl ⟨[], by simp, hrest.symm⟩
      | cons b rest =>
          obtain ⟨rfl, hys⟩ := List.cons.inj hrest
          exact .inr ⟨rest, rfl, hys⟩
    · exact .inl ⟨rest, rfl, rfl⟩
  · rintro (⟨rest, rfl, rfl⟩ | ⟨rest, rfl, rfl⟩) <;> simp

section

variable {tokens before statement after xs ys : List PlacedToken} {t : PlacedToken} {i : Nat}
  {pair : PlacedToken × PlacedToken} {e : SqlError}

theorem IsStatement.nil_nil (hinside : ∀ u ∈ statement, u.token.isSemicolon = false) :
    IsStatement statement [] statement [] where
  split := (List.append_nil _).symm
  start := nofun
  inside := hinside
  stop := nofun

theorem eq_none_of_semicolon {o : Option PlacedToken} (hsemicolon : ∀ u ∈ o, u.token.isSemicolon = true)
    (hinside : ∀ u ∈ o, u.token.isSemicolon = false) : o = none := by
  rw [Option.eq_none_iff_forall_not_mem]
  intro u hu
  exact absurd ((hinside u hu).symm.trans (hsemicolon u hu)) Bool.false_ne_true

/-- Without a semicolon all is one statement. -/
theorem IsStatement.eq_of_inside (h : IsStatement tokens before statement after)
    (hinside : ∀ u ∈ tokens, u.token.isSemicolon = false) : before = [] ∧ statement = tokens ∧ after = [] := by
  have hlast : before.getLast? = none := eq_none_of_semicolon h.start fun u hu =>
    hinside u (by simp [h.split, List.mem_of_getLast? hu])
  have hhead : after.head? = none := eq_none_of_semicolon h.stop fun u hu =>
    hinside u (by simp [h.split, List.mem_of_mem_head? hu])
  obtain rfl := List.getLast?_eq_none_iff.mp hlast
  obtain rfl := List.head?_eq_none_iff.mp hhead
  exact ⟨rfl, by simp [h.split], rfl⟩

section

variable (ht : t.token.isSemicolon = true)

include ht

theorem forall_getLast?_append_iff :
    (∀ u ∈ (xs ++ t :: before).getLast?, u.token.isSemicolon = true) ↔
      ∀ u ∈ before.getLast?, u.token.isSemicolon = true := by
  rw [List.getLast?_append, List.getLast?_cons]
  cases before.getLast? <;> simp [ht]

theorem forall_head?_append_iff :
    (∀ u ∈ (after ++ t :: ys).head?, u.token.isSemicolon = true) ↔
      ∀ u ∈ after.head?, u.token.isSemicolon = true := by
  cases after <;> simp [ht]

/-- A statement stands before a semicolon or behind it. -/
theorem isStatement_append_iff :
    IsStatement (xs ++ t :: ys) before statement after ↔
      (∃ rest, after = rest ++ t :: ys ∧ IsStatement xs before statement rest) ∨
        ∃ front, before = xs ++ t :: front ∧ IsStatement ys front statement after := by
  constructor
  · rintro ⟨hsplit, hstart, hinside, hstop⟩
    rw [List.append_assoc] at hsplit
    obtain ⟨rest, rfl, hrest⟩ | ⟨front, rfl, rfl⟩ := append_cons_eq_append_iff.mp hsplit
    · -- The semicolon is not in the statement, so it is behind it.
      obtain ⟨middle, rfl, rfl⟩ | ⟨middle, rfl, -⟩ := append_cons_eq_append_iff.mp hrest.symm
      · refine .inl ⟨middle, rfl, (List.append_assoc ..).symm, hstart, hinside, ?_⟩
        exact (forall_head?_append_iff ht).mp hstop
      · have hsemicolon := hinside t (by simp)
        exact absurd (hsemicolon.symm.trans ht) Bool.false_ne_true
    · refine .inr ⟨front, rfl, (List.append_assoc ..).symm, ?_, hinside, hstop⟩
      exact (forall_getLast?_append_iff ht).mp hstart
  · rintro (⟨rest, rfl, rfl, hstart, hinside, hstop⟩ | ⟨front, rfl, rfl, hstart, hinside, hstop⟩)
    · exact ⟨by simp, hstart, hinside, (forall_head?_append_iff ht).mpr hstop⟩
    · exact ⟨by simp, (forall_getLast?_append_iff ht).mpr hstart, hinside, hstop⟩

theorem missingAt_append_iff :
    MissingAt (xs ++ t :: ys) i pair ↔
      MissingAt xs i pair ∨ ∃ j, i = xs.length + 1 + j ∧ MissingAt ys j pair := by
  constructor
  · rintro ⟨before, statement, after, hstatement, hstarts, j, rfl, hlacks⟩
    obtain ⟨rest, -, hxs⟩ | ⟨front, rfl, hys⟩ := (isStatement_append_iff ht).mp hstatement
    · exact .inl ⟨before, statement, rest, hxs, hstarts, j, rfl, hlacks⟩
    · refine .inr ⟨front.length + j, ?_, front, statement, after, hys, hstarts, j, rfl, hlacks⟩
      rw [List.length_append, List.length_cons]
      omega
  · rintro (⟨before, statement, rest, hxs, hstarts, j, rfl, hlacks⟩ |
      ⟨-, rfl, front, statement, after, hys, hstarts, j, rfl, hlacks⟩)
    · have hstatement : IsStatement (xs ++ t :: ys) before statement (rest ++ t :: ys) :=
        (isStatement_append_iff ht).mpr (.inl ⟨rest, rfl, hxs⟩)
      exact ⟨before, statement, _, hstatement, hstarts, j, rfl, hlacks⟩
    · have hstatement : IsStatement (xs ++ t :: ys) (xs ++ t :: front) statement after :=
        (isStatement_append_iff ht).mpr (.inr ⟨front, rfl, hys⟩)
      refine ⟨_, statement, after, hstatement, hstarts, j, ?_, hlacks⟩
      rw [List.length_append, List.length_cons]
      omega

end

theorem lt_of_missingAt (h : MissingAt tokens i pair) : i < tokens.length := by
  obtain ⟨before, statement, after, hstatement, -, j, rfl, hlacks⟩ := h
  obtain ⟨hlength, -⟩ := List.getElem?_eq_some_iff.mp hlacks.previous
  rw [hstatement.split, List.length_append, List.length_append]
  omega

theorem missingAt_iff_of_inside (hinside : ∀ u ∈ tokens, u.token.isSemicolon = false) :
    MissingAt tokens i pair ↔ StartsTable tokens ∧ LacksItemAt tokens i pair := by
  constructor
  · rintro ⟨before, statement, after, hstatement, hstarts, j, rfl, hlacks⟩
    obtain ⟨rfl, rfl, rfl⟩ := hstatement.eq_of_inside hinside
    rw [List.length_nil, Nat.zero_add]
    exact ⟨hstarts, hlacks⟩
  · rintro ⟨hstarts, hlacks⟩
    exact ⟨[], tokens, [], .nil_nil hinside, hstarts, i, (Nat.zero_add i).symm, hlacks⟩

theorem inside_or_exists_append (tokens : List PlacedToken) :
    (∀ u ∈ tokens, u.token.isSemicolon = false) ∨
      ∃ xs t ys, tokens = xs ++ t :: ys ∧ t.token.isSemicolon = true := by
  by_cases hsome : ∃ u ∈ tokens, u.token.isSemicolon = true
  · obtain ⟨u, hu, hsemicolon⟩ := hsome
    obtain ⟨xs, ys, hsplit⟩ := List.append_of_mem hu
    exact .inr ⟨xs, u, ys, hsplit, hsemicolon⟩
  · exact .inl (by simpa using hsome)

/-- The error tells the first two neighbours in a script that lack an item, and where the second of them is. -/
def TellsFirst (tokens : List PlacedToken) (e : SqlError) : Prop :=
  ∃ a b, (∃ i, FirstAt (MissingAt tokens) i (a, b)) ∧ e = .emptyItem a.token.text b.token.text b.position

theorem exists_tellsFirst_iff : (∃ e, TellsFirst tokens e) ↔ ∃ i pair, MissingAt tokens i pair := by
  rw [← exists_firstAt_iff]
  constructor
  · rintro ⟨e, a, b, hfirst, -⟩
    exact ⟨(a, b), hfirst⟩
  · rintro ⟨⟨a, b⟩, hfirst⟩
    exact ⟨_, a, b, hfirst, rfl⟩

theorem tellsFirst_append_iff (ht : t.token.isSemicolon = true) :
    TellsFirst (xs ++ t :: ys) e ↔
      TellsFirst xs e ∨ (¬∃ i pair, MissingAt xs i pair) ∧ TellsFirst ys e := by
  have hbefore : ∀ i pair, MissingAt xs i pair → i < xs.length + 1 :=
    fun i pair h => Nat.lt_succ_of_lt (lt_of_missingAt h)
  have hparts : ∀ i pair, MissingAt (xs ++ t :: ys) i pair ↔
      MissingAt xs i pair ∨ ∃ j, i = xs.length + 1 + j ∧ MissingAt ys j pair :=
    fun i pair => missingAt_append_iff ht
  simp only [TellsFirst, exists_firstAt_append_iff hbefore hparts, or_and_right, exists_or, and_assoc,
    exists_and_left]

theorem tellsFirst_iff_of_inside (hinside : ∀ u ∈ tokens, u.token.isSemicolon = false) :
    TellsFirst tokens e ↔ StartsTable tokens ∧
      ∃ a b, missingItem? tokens = some (a, b) ∧ e = .emptyItem a.token.text b.token.text b.position := by
  have hmissing : ∀ i pair, MissingAt tokens i pair ↔ StartsTable tokens ∧ LacksItemAt tokens i pair :=
    fun i pair => missingAt_iff_of_inside hinside
  by_cases hstarts : StartsTable tokens
  · have hsame : MissingAt tokens = LacksItemAt tokens := by
      funext i pair
      rw [hmissing, and_iff_right hstarts]
    simp only [TellsFirst, hsame, missingItem?_eq_some_iff, and_iff_right hstarts]
  · refine iff_of_false ?_ fun h => hstarts h.1
    rintro ⟨a, b, ⟨i, hfirst⟩, -⟩
    exact hstarts ((hmissing _ _).mp hfirst.here).1

/-- The check finds the first place in a script where an item is missing. -/
theorem emptyItem?_eq_some_iff (tokens : List PlacedToken) (e : SqlError) :
    emptyItem? tokens = some e ↔ TellsFirst tokens e := by
  -- Recursion on the number of tokens: any semicolon leaves two shorter scripts, and without one the scan decides.
  obtain hinside | ⟨xs, t, ys, hsplit, ht⟩ := inside_or_exists_append tokens
  · rw [emptyItem?_of_inside hinside, tellsFirst_iff_of_inside hinside, ← startsTable_iff]
    split
    case isTrue hstarts =>
        rw [and_iff_right hstarts, Option.map_eq_some_iff, Prod.exists]
        exact exists_congr fun a => exists_congr fun b => and_congr_right fun _ => eq_comm
    case isFalse hstarts => simp [hstarts]
  · have hlength : tokens.length = xs.length + (ys.length + 1) := by
      rw [hsplit, List.length_append, List.length_cons]
    have hnone : emptyItem? xs = none ↔ ¬∃ i pair, MissingAt xs i pair := by
      rw [← exists_tellsFirst_iff, Option.eq_none_iff_forall_ne_some, not_exists]
      exact forall_congr' fun e => not_congr (emptyItem?_eq_some_iff xs e)
    rw [hsplit, emptyItem?_append ht, Option.or_eq_some_iff, tellsFirst_append_iff ht, hnone,
      emptyItem?_eq_some_iff xs e, emptyItem?_eq_some_iff ys e]
termination_by tokens.length

/-- Of a statement that starts no table nothing is checked. -/
theorem emptyItem?_of_other (h : IsStatement tokens before statement after) (hother : ¬StartsTable statement) :
    emptyItem? tokens = (emptyItem? before).or (emptyItem? after) := by
  have hnone : emptyItem? statement = none := by
    rw [emptyItem?_of_inside h.inside, if_neg (mt startsTable_iff.mp hother)]
  have hnil : emptyItem? [] = none := rfl
  have hback : emptyItem? (statement ++ after) = emptyItem? after := by
    cases after with
    | nil => rw [List.append_nil, hnone, hnil]
    | cons t rest =>
        have ht : t.token.isSemicolon = true := h.stop t rfl
        rw [emptyItem?_append ht, hnone, ← List.nil_append (t :: rest), emptyItem?_append ht, hnil]
  rw [h.split, List.append_assoc]
  obtain rfl | ⟨front, t, rfl⟩ := List.eq_nil_or_concat' before
  · rw [List.nil_append, hback, hnil, Option.none_or]
  · have ht : t.token.isSemicolon = true := h.start t (by simp)
    rw [List.append_assoc, List.singleton_append, emptyItem?_append ht, emptyItem?_append ht, hback, hnil,
      Option.or_none]

/-- The report of the error gives a line and a column. -/
def SqlError.Locates (e : SqlError) (p : Position) : Prop :=
  ∃ r, e.report? = some r ∧ r.kind = .sql ∧ r.context.lookup "line" = some (.int p.line) ∧
    r.context.lookup "column" = some (.int p.column)

theorem locates_emptyItem (previous found : String) (p : Position) :
    (SqlError.emptyItem previous found p).Locates p := by
  refine ⟨_, rfl, rfl, ?_⟩
  simp only [Report.sql, Context.putText]
  split <;> exact ⟨rfl, rfl⟩

/-- A script fails the check exactly if two neighbours in a statement of it lack an item and the statement starts a
table. The error gives the line and the column of the second of the first such neighbours. Statements of another kind
do not count, and what stands before a semicolon is checked apart from what stands behind it. -/
theorem emptyItem?_outcome (tokens : List PlacedToken) :
    ((∃ e, emptyItem? tokens = some e) ↔ ∃ i pair, MissingAt tokens i pair) ∧
    (∀ e, emptyItem? tokens = some e → ∃ i a b, FirstAt (MissingAt tokens) i (a, b) ∧
      e = .emptyItem a.token.text b.token.text b.position ∧ e.Locates b.position) ∧
    (∀ before other after, IsStatement tokens before other after → ¬StartsTable other →
      emptyItem? tokens = (emptyItem? before).or (emptyItem? after)) ∧
    ∀ before t after, tokens = before ++ t :: after → t.token.isSemicolon = true →
      emptyItem? tokens = (emptyItem? before).or (emptyItem? after) := by
  refine ⟨?_, fun e he => ?_, fun before other after => emptyItem?_of_other, ?_⟩
  · rw [← exists_tellsFirst_iff]
    exact exists_congr fun e => emptyItem?_eq_some_iff tokens e
  · obtain ⟨a, b, ⟨i, hfirst⟩, rfl⟩ := (emptyItem?_eq_some_iff tokens e).mp he
    exact ⟨i, a, b, hfirst, rfl, locates_emptyItem ..⟩
  · rintro before t after rfl ht
    exact emptyItem?_append ht before after

end

end GormModels.Sql
