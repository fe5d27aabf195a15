import GormModels.Proofs.Sql.Script

/-!
# Lists with an item missing

The parser reads past a list item that is missing, so statements that create tables are checked for them
beforehand. The check goes by the first three tokens of a statement, the parser by the kind of statement that it
reads; a table escapes the check where its statement does not start with CREATE, or where more than one token stands
between CREATE and TABLE.
-/

namespace GormModels.Sql

/-- Nothing stands between two tokens where a list should have an item. -/
def LacksItem (a b : Token) : Prop :=
  a.isSymbol "," = true ∧ (b.isSymbol "," = true ∨ b.isSymbol ")" = true) ∨
    a.isSymbol "(" = true ∧ b.isSymbol "," = true

/-- Two neighbours lack an item between them. -/
def HasEmptyItem (tokens : List Token) : Prop := ∃ a b, [a, b] <:+: tokens ∧ LacksItem a b

theorem missesItem_iff {a b : PlacedToken} : missesItem a b = true ↔ LacksItem a.token b.token := by
  simp [missesItem, LacksItem]

theorem hasEmptyItem_cons_cons {a b : Token} {tokens : List Token} :
    HasEmptyItem (a :: b :: tokens) ↔ LacksItem a b ∨ HasEmptyItem (b :: tokens) := by
  constructor
  · rintro ⟨c, d, hinside, hlacks⟩
    obtain hstart | hlater := List.infix_cons_iff.mp hinside
    · obtain ⟨rfl, hnext⟩ := List.cons_prefix_cons.mp hstart
      obtain ⟨rfl, -⟩ := List.cons_prefix_cons.mp hnext
      exact .inl hlacks
    · exact .inr ⟨c, d, hlater, hlacks⟩
  · rintro (hlacks | ⟨c, d, hlater, hlacks⟩)
    · exact ⟨a, b, List.IsPrefix.isInfix ⟨tokens, rfl⟩, hlacks⟩
    · exact ⟨c, d, List.infix_cons_iff.mpr (.inr hlater), hlacks⟩

theorem missingItem?_eq_none_iff {statement : List PlacedToken} :
    missingItem? statement = none ↔ ¬HasEmptyItem (statement.map (·.token)) := by
  fun_induction missingItem? statement with
  | case1 a b rest hmisses =>
      simp [hasEmptyItem_cons_cons, missesItem_iff.mp hmisses]
  | case2 a b rest hmisses ih =>
      rw [missesItem_iff] at hmisses
      rw [ih, List.map_cons, List.map_cons, List.map_cons, hasEmptyItem_cons_cons]
      simp [hmisses]
  | case3 statement hshort =>
      refine iff_of_true rfl ?_
      rintro ⟨a, b, hinside, -⟩
      have hlength := hinside.length_le
      match statement with
      | [] => simp at hlength
      | [_] => simp at hlength
      | c :: d :: rest => exact hshort c d rest rfl

/-- A statement that starts with CREATE and lacks a list item has TABLE neither for its second nor for its third
token. -/
def ChecksItems (part : List Token) : Prop :=
  StartsCreate part → HasEmptyItem part → ∀ t ∈ (part.drop 1).take 2, t.isWord "TABLE" = false

theorem startsTable_iff_startsCreate {statement : List PlacedToken} : startsTable statement = true ↔
    StartsCreate (statement.map (·.token)) ∧
      ∃ t ∈ ((statement.map (·.token)).drop 1).take 2, t.isWord "TABLE" = true := by
  cases statement with
  | nil => simp [startsTable, StartsCreate]
  | cons first more =>
      have hstarts : StartsCreate ((first :: more).map (·.token)) ↔ first.token.isWord "CREATE" = true := by
        simp [StartsCreate]
      rw [hstarts, startsTable, Bool.and_eq_true, List.any_eq_true, List.map_cons, List.drop_one, List.tail_cons,
        ← List.map_take]
      refine and_congr_right fun _ => ?_
      constructor
      · rintro ⟨t, ht, htable⟩
        exact ⟨t.token, List.mem_map_of_mem ht, htable⟩
      · rintro ⟨_, ht, htable⟩
        obtain ⟨t, hmem, rfl⟩ := List.mem_map.mp ht
        exact ⟨t, hmem, htable⟩

theorem checksItems_iff {statement : List PlacedToken} : ChecksItems (statement.map (·.token)) ↔
    (startsTable statement = true → missingItem? statement = none) := by
  rw [ChecksItems, startsTable_iff_startsCreate, missingItem?_eq_none_iff]
  constructor
  · rintro hchecks ⟨hcreate, t, ht, htable⟩ hempty
    rw [hchecks hcreate hempty t ht] at htable
    cases htable
  · intro hchecks hcreate hempty t ht
    by_contra htable
    exact hchecks ⟨hcreate, t, ht, by simpa using htable⟩ hempty

theorem emptyItem?_eq_none_iff {tokens : List PlacedToken} :
    emptyItem? tokens = none ↔ ∀ part ∈ partsOf (tokens.map (·.token)), ChecksItems part := by
  rw [← map_token_statementsOf, List.forall_mem_map]
  simp only [checksItems_iff]
  simp [emptyItem?, List.findSome?_eq_none_iff]

section

variable [Dialect] {text : String} {parts : List (List Token)} {statements : List Statement}

/-- Whatever the parser makes of a text that is read, its statements are checked. -/
theorem ReadAs.checksItems (h : ReadAs text parts statements) : ∀ part ∈ parts, ChecksItems part := by
  obtain ⟨tokens, htokens, rfl, hstatements⟩ := h
  obtain ⟨⟨placed, hplaced, hitems⟩, -⟩ := statementsIn_eq_ok_iff.mp hstatements
  obtain ⟨placed', hplaced', rfl⟩ := tokensOf_eq_ok_iff.mp htokens
  cases hplaced.symm.trans hplaced'
  exact emptyItem?_eq_none_iff.mp hitems

/-- A statement that contributes a table lacks no list item where it starts with CREATE and has TABLE for its second or
third token. -/
theorem checksItems_of_parseTables [ReadsStatements] {tables : List TableDeclaration}
    (h : parseTables text = .ok tables) : ∃ parts statements, ReadAs text parts statements ∧
      List.Forall₂ (fun d t => d.declare = .ok t) (statements.filterMap Statement.definition?) tables ∧
      List.Forall₂ (fun part s => s.definition?.isSome → ChecksItems part) parts statements := by
  obtain ⟨statements, hstatements, hdefined⟩ := definitions_of_parseTables h
  obtain ⟨parts, hparts⟩ := exists_readAs hstatements
  obtain ⟨read, -, hread⟩ := hparts.read
  refine ⟨parts, statements, hparts, hdefined, ?_⟩
  refine ((List.forall₂_and_left _ _).mpr ⟨hparts.checksItems, hread⟩).imp ?_
  rintro part s ⟨hchecked, -⟩ -
  exact hchecked

end

theorem checksItems_users : ∃ parts statements,
    ReadAs "CREATE TEMPORARY TABLE users (id INT, name TEXT)" parts statements ∧
    List.Forall₂ (fun d t => d.declare = .ok t) (statements.filterMap Statement.definition?)
      [{ name := "users"
         columns := [{ name := "id", typeName := "INT", typeText := "INT" },
           { name := "name", typeName := "TEXT", typeText := "TEXT" }] }] ∧
    List.Forall₂ (fun part s => s.definition?.isSome → ChecksItems part) parts statements := by
  apply checksItems_of_parseTables
  decide +kernel

/-- The definition of a table with two columns and a comma too many between them. -/
def doubledComma : String := "CREATE OR REPLACE TABLE t (a INT,, b INT)"

theorem parseTables_accepts_doubledComma : (∃ tables, parseTables doubledComma = .ok tables) ∧
    ∃ part s, ReadAs doubledComma [part] [s] ∧ s.definition?.isSome ∧ HasEmptyItem part := by
  constructor
  · have hparse : (parseTables doubledComma).toOption.isSome := by decide +kernel
    obtain ⟨tables, htables⟩ := Option.isSome_iff_exists.mp hparse
    exact ⟨tables, Attempt.toOption_eq_some_iff.mp htables⟩
  · have hstatements :
        (statementsIn doubledComma).toOption.map (·.map fun s => s.definition?.isSome) = some [true] := by
      decide +kernel
    have hparts : (Dialect.tokenize doubledComma).toOption.map (fun placed =>
        (statementsOf placed).map fun statement => (missingItem? statement).isSome) = some [true] := by
      decide +kernel
    obtain ⟨statements, hstatements, hshown⟩ := Option.map_eq_some_iff.mp hstatements
    obtain ⟨s, others, rfl, hdefinition, hothers⟩ := List.map_eq_cons_iff.mp hshown
    obtain rfl := List.map_eq_nil_iff.mp hothers
    obtain ⟨placed, hplaced, hshown⟩ := Option.map_eq_some_iff.mp hparts
    obtain ⟨statement, others, hsplit, hmissing, hothers⟩ := List.map_eq_cons_iff.mp hshown
    obtain rfl := List.map_eq_nil_iff.mp hothers
    have htokens := tokensOf_eq_ok_iff.mpr ⟨placed, Attempt.toOption_eq_some_iff.mp hplaced, rfl⟩
    refine ⟨statement.map (·.token), s, ⟨_, htokens, ?_, Attempt.toOption_eq_some_iff.mp hstatements⟩, hdefinition, ?_⟩
    · rw [← map_token_statementsOf, hsplit]
      rfl
    · by_contra hempty
      rw [missingItem?_eq_none_iff.mpr hempty] at hmissing
      cases hmissing

end GormModels.Sql
