import GormModels.Proofs.Sql.EmptyItem

/-!
# The tables of two texts

What a text declares is told by its statements one by one. So two texts with a semicolon between them declare what
both declare, the first with a line feed behind it.
-/

namespace GormModels.Sql

/-! ### Statements one by one -/

section

variable (read : List Token → Option Statement)

/-- Tokens miss no item, are read as a statement, and declare one table or none. -/
def Declares (part : List Token) (entry : Option TableDeclaration) : Prop :=
  ChecksItems part ∧ ∃ s, read part = some s ∧ s.declare = .ok entry

/-- The tables that statements declare together, in their order. -/
def Yields (parts : List (List Token)) (tables : List TableDeclaration) : Prop :=
  ∃ entries, List.Forall₂ (Declares read) parts entries ∧ tables = entries.reduceOption

end

variable {read : List Token → Option Statement} {parts parts' : List (List Token)} {tables : List TableDeclaration}

theorem forall₂_declares_iff {entries : List (Option TableDeclaration)} :
    List.Forall₂ (Declares read) parts entries ↔ (∀ part ∈ parts, ChecksItems part) ∧
      ∃ statements, List.Forall₂ (fun part s => read part = some s) parts statements ∧
        List.Forall₂ (fun s entry => s.declare = .ok entry) statements entries := by
  rw [← Attempt.forall₂_comp_iff]
  exact List.forall₂_and_left _ _

theorem yields_append_iff : Yields read (parts ++ parts') tables ↔
    ∃ front back, Yields read parts front ∧ Yields read parts' back ∧ tables = front ++ back := by
  simp only [Yields, Attempt.forall₂_append_left_iff]
  constructor
  · rintro ⟨-, ⟨front, back, hfront, hback, rfl⟩, rfl⟩
    exact ⟨_, _, ⟨front, hfront, rfl⟩, ⟨back, hback, rfl⟩, List.reduceOption_append front back⟩
  · rintro ⟨-, -, ⟨front, hfront, rfl⟩, ⟨back, hback, rfl⟩, rfl⟩
    exact ⟨_, ⟨front, back, hfront, hback, rfl⟩, (List.reduceOption_append front back).symm⟩

/-! ### Texts -/

section

variable [Dialect] {text : String} {tokens : List Token}

theorem checkItems_eq_ok_iff_parts (h : tokensOf text = .ok tokens) :
    checkItems text = .ok () ↔ ∀ part ∈ partsOf tokens, ChecksItems part := by
  obtain ⟨placed, hplaced, rfl⟩ := tokensOf_eq_ok_iff.mp h
  rw [checkItems_eq_ok_iff, hplaced, ← emptyItem?_eq_none_iff]
  simp

theorem exists_tokensOf (h : parseTables text = .ok tables) : ∃ tokens, tokensOf text = .ok tokens := by
  obtain ⟨statements, entries, hstatements, -, -⟩ := parseTables_eq_ok_iff.mp h
  obtain ⟨parts, tokens, htokens, -⟩ := exists_readAs hstatements
  exact ⟨tokens, htokens⟩

/-- The statements of a text tell its tables, wherever they stand. -/
theorem exists_yields [ReadsStatements] : ∃ read, ∀ {text : String} {tokens : List Token},
    tokensOf text = .ok tokens → ∀ tables, parseTables text = .ok tables ↔ Yields read (partsOf tokens) tables := by
  obtain ⟨read, -, hread⟩ := ReadsStatements.exists_grammar
  refine ⟨read, fun {text tokens} htokens tables => ?_⟩
  simp only [parseTables_eq_ok_iff, statementsIn_eq_ok_iff, ← checkItems_eq_ok_iff,
    checkItems_eq_ok_iff_parts htokens, hread htokens, Yields, forall₂_declares_iff]
  constructor
  · rintro ⟨statements, entries, ⟨hitems, hstatements⟩, hentries, rfl⟩
    exact ⟨entries, ⟨hitems, statements, hstatements, hentries⟩, rfl⟩
  · rintro ⟨entries, ⟨hitems, statements, hstatements, hentries⟩, rfl⟩
    exact ⟨statements, entries, ⟨hitems, hstatements⟩, hentries, rfl⟩

variable [ReadsStatements] [PartsTexts] {a b : String} {as bs : List TableDeclaration}

/-- What two texts declare together is what the first declares with a line feed behind it, and then what the
second declares. -/
theorem parseTables_batch_iff (ha : ∃ as, parseTables a = .ok as) (hb : parseTables b = .ok bs)
    {tables : List TableDeclaration} :
    parseTables (batch a b) = .ok tables ↔ ∃ as, parseTables (a ++ "\n") = .ok as ∧ tables = as ++ bs := by
  obtain ⟨as, ha⟩ := ha
  obtain ⟨tokens, htokens⟩ := exists_tokensOf ha
  obtain ⟨before, hbefore⟩ := PartsTexts.newline htokens
  obtain ⟨after, hafter⟩ := exists_tokensOf hb
  obtain ⟨all, hall, hparts⟩ := PartsTexts.batch hbefore hafter
  obtain ⟨read, hyields⟩ := exists_yields
  rw [hyields hall, hparts, yields_append_iff]
  simp only [← hyields hbefore, ← hyields hafter, hb, Except.ok.injEq]
  simp

/-- A line feed behind a text changes nothing unless two hyphens stand before it. -/
theorem parseTables_append_newline (hhyphens : ¬['-', '-'] <:+ a.toList) (ha : parseTables a = .ok as) :
    parseTables (a ++ "\n") = .ok as := by
  obtain ⟨tokens, htokens⟩ := exists_tokensOf ha
  obtain ⟨read, hyields⟩ := exists_yields
  exact (hyields (PartsTexts.newline_eq hhyphens htokens) as).mpr ((hyields htokens as).mp ha)

end

end GormModels.Sql
