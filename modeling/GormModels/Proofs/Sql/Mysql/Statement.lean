import GormModels.Proofs.Sql.Mysql.Reading
import GormModels.Proofs.Sql.Mysql.Lexer

/-!
# Statements that create tables

Behind CREATE, the word TABLE makes a table of the statement unless what follows is left to a command. Statements
are read one by one, so the dialect reads them as its laws say.
-/

namespace GormModels.Sql.Mysql

open Reading

variable {tokens rest : List Token} {t : Token} {s : Statement}

theorem command_eq_ok (h : command tokens = .ok (s, rest)) : s = .command := by
  cases h
  rfl

theorem createdOrCommand_eq_ok {s s' : Statement} (h : createdOrCommand s tokens = .ok (s', rest)) :
    s' = s ∨ s' = .command := by
  rw [createdOrCommand, bind_apply peek_apply] at h
  cases hhead : tokens.head? with
  | none =>
      rw [hhead] at h
      cases h
      exact .inl rfl
  | some t =>
      rw [hhead] at h
      dsimp only at h
      split at h
      · cases h
        exact .inl rfl
      · exact .inr (command_eq_ok h)

/-- A statement behind CREATE and its options. -/
def created (atKind : Bool) (options : List TableOption) : Reading Statement := do
  match ← oneOf objectKinds with
  | none => command
  | some kind =>
    if !atKind && options.isEmpty then command
    else if kind ∈ tableKinds then
      let definition ← tableDefinition kind
      let definition := { definition with options := options ++ definition.options }
      createdOrCommand (if kind == "TABLE" then .table definition else .other)
    else if kind == "INDEX" then
      existence true
      createdIndex
      createdOrCommand .other
    else if kind == "FUNCTION" || kind == "PROCEDURE" then
      Reading.rest
      return .other
    else createdOrCommand .other

theorem createStatement_of_not_or (hor : t.isWord "OR" = false) (hunique : t.isWord "UNIQUE" = false) :
    createStatement (t :: tokens) =
      if objectKinds.any t.isWord then created true [] (t :: tokens)
      else (tableOptions >>= created false) (t :: tokens) := by
  rw [createStatement, bind_apply peek_apply]
  simp only [List.head?_cons, Option.any_some, hor]
  rw [if_neg (by simp), bind_apply (word_of_false hunique), bind_apply peek_apply]
  by_cases hkind : objectKinds.any t.isWord = true
  · simp only [List.head?_cons, Option.any_some, hkind, if_true]
    rfl
  · rw [Bool.not_eq_true] at hkind
    simp only [List.head?_cons, Option.any_some, hkind, Bool.false_eq_true, if_false]
    rfl

theorem created_of_table {atKind : Bool} {options : List TableOption} (htable : t.isWord "TABLE" = true)
    (h : created atKind options (t :: tokens) = .ok (s, rest)) : s = .command ∨ ∃ d, s = .table d := by
  rw [created, bind_apply (oneOf_of_mem htable (by decide))] at h
  dsimp only at h
  split at h
  · exact .inl (command_eq_ok h)
  · rw [if_pos (by decide), bind_eq_ok_iff] at h
    obtain ⟨definition, mid, -, hcreated⟩ := h
    obtain rfl | rfl := createdOrCommand_eq_ok hcreated
    · exact .inr ⟨_, rfl⟩
    · exact .inl rfl

theorem createStatement_of_table (htable : t.isWord "TABLE" = true)
    (h : createStatement (t :: tokens) = .ok (s, rest)) : s = .command ∨ ∃ d, s = .table d := by
  have hkind : objectKinds.any t.isWord = true := List.any_eq_true.mpr ⟨"TABLE", by decide, htable⟩
  rw [createStatement_of_not_or (Token.isWord_eq_false htable (by decide))
    (Token.isWord_eq_false htable (by decide)), if_pos hkind] at h
  exact created_of_table htable h

/-! ### Whole statements -/

theorem statementBody_of_statement (h : statement tokens = .ok (s, rest)) :
    statementBody tokens = .ok (s, rest) := by
  rw [statement, bind_eq_ok_iff] at h
  obtain ⟨body, mid, hbody, h⟩ := h
  rw [bind_apply get_apply] at h
  cases mid with
  | nil =>
      cases h
      exact hbody
  | cons t mid => cases h

theorem createStatement_of_statement {create : Token} (hcreate : create.isWord "CREATE" = true)
    (h : statement (create :: tokens) = .ok (s, rest)) : createStatement tokens = .ok (s, rest) := by
  have hkind : (create.kind == .word) = true ∧ Text.upperText create.text = "CREATE" := by
    simpa [Token.isWord] using hcreate
  have hwith : create.isWord "WITH" = false := Token.isWord_eq_false hcreate (by decide)
  have hquery : startsQuery (create :: tokens) = false := by
    simp [startsQuery, Token.isSymbol_eq_false hcreate, Token.opensQuery, hwith,
      Token.isWord_eq_false hcreate (show "CREATE" ≠ "SELECT" by decide)]
  have hbody := statementBody_of_statement h
  rw [statementBody, bind_apply get_apply, if_neg (by simp [hwith]), if_neg (by simp [hquery]),
    bind_apply (takeIf_of_true hkind.1)] at hbody
  dsimp only at hbody
  rw [hkind.2] at hbody
  exact hbody

/-! ### Nodes -/

/-- The node of the statement that tokens are read as. -/
def nodeOf (tokens : List Token) : Option Sql.Statement := do
  let (s, _) ← (statement tokens).toOption
  return s.node tokens

theorem nodeOf_eq_some_iff {node : Sql.Statement} :
    nodeOf tokens = some node ↔ ∃ s rest, statement tokens = .ok (s, rest) ∧ s.node tokens = node := by
  rw [nodeOf]
  cases statement tokens with
  | error fault => simp [Except.toOption]
  | ok found =>
      obtain ⟨s, rest⟩ := found
      simp [Except.toOption]

theorem isGrammar_nodeOf : IsGrammar nodeOf where
  table h hcreate htable := by
    obtain ⟨s, rest, hstatement, rfl⟩ := nodeOf_eq_some_iff.mp h
    obtain rfl | ⟨d, rfl⟩ := createStatement_of_table htable (createStatement_of_statement hcreate hstatement)
    · exact .inl (.inr ⟨_, _, _, rfl⟩)
    · exact .inl (.inl rfl)
  command h hcreate := by
    obtain ⟨s, rest, -, hnode⟩ := nodeOf_eq_some_iff.mp h
    cases s with
    | table d | other => cases hnode
    | command =>
        cases hnode
        exact ⟨String.toList_ofList, String.toList_ofList⟩

theorem readStatements_eq_iff {parts : List (List PlacedToken)} {nodes : List Sql.Statement} :
    (∃ found, readStatements parts = (found, none) ∧ found.map (fun s => s.statement.node s.tokens) = nodes) ↔
      List.Forall₂ (fun part node => nodeOf part = some node) (parts.map (·.map (·.token))) nodes := by
  induction parts generalizing nodes with
  | nil => simp [readStatements, eq_comm]
  | cons part parts ih =>
      rw [List.map_cons, List.forall₂_cons_left_iff, readStatements]
      cases hstatement : statement (part.map (·.token)) with
      | error fault => simp [nodeOf_eq_some_iff, hstatement]
      | ok result =>
          obtain ⟨s, rest⟩ := result
          have hnode : nodeOf (part.map (·.token)) = some (s.node (part.map (·.token))) :=
            nodeOf_eq_some_iff.mpr ⟨s, rest, hstatement, rfl⟩
          simp only [hnode, ← ih]
          cases readStatements parts with
          | mk found fault =>
              constructor
              · rintro ⟨_, heq, rfl⟩
                cases heq
                exact ⟨_, _, rfl, ⟨found, rfl, rfl⟩, rfl⟩
              · rintro ⟨_, _, ⟨⟩, ⟨_, heq, rfl⟩, rfl⟩
                cases heq
                exact ⟨_, rfl, rfl⟩

/-! ### Texts -/

theorem statements_eq_ok_iff {text : String} {nodes : List Sql.Statement} : statements text = .ok nodes ↔
    ∃ placed, placedTokens text = .ok placed ∧
      List.Forall₂ (fun part node => nodeOf part = some node) (partsOf (placed.map (·.token))) nodes := by
  rw [statements, Attempt.bind_eq_ok_iff]
  simp only [Attempt.mapError_eq_ok_iff]
  refine exists_congr fun placed => and_congr_right fun _ => ?_
  rw [← map_token_statementsOf, ← readStatements_eq_iff]
  cases readStatements (statementsOf placed) with
  | mk found fault => cases fault <;> simp

instance : ReadsStatements where
  exists_grammar := by
    refine ⟨nodeOf, isGrammar_nodeOf, fun {text tokens} htokens {nodes} => ?_⟩
    obtain ⟨placed, hplaced, rfl⟩ := tokensOf_eq_ok_iff.mp htokens
    change statements text = .ok nodes ↔ _
    rw [statements_eq_ok_iff]
    simp [show placedTokens text = .ok placed from hplaced]

end GormModels.Sql.Mysql
