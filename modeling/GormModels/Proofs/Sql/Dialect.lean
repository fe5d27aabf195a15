import GormModels.Proofs.Sql.Tables
import GormModels.Proofs.Text.Blank

/-!
# What dialects keep to

Of a dialect no more is taken for granted than its documentation says of any text: how words are cut out of it, that
statements are read one by one from the tokens between semicolons, and that a line feed ends a comment. Each of these
is a law of its own, and a result names the laws that it rests on.
-/

namespace GormModels.Sql

section

variable [Dialect]

/-- The tokens of a text, their places set aside. -/
def tokensOf (text : String) : Except String (List Token) := (·.map (·.token)) <$> Dialect.tokenize text

theorem tokensOf_eq_ok_iff {text : String} {tokens : List Token} : tokensOf text = .ok tokens ↔
    ∃ placed, Dialect.tokenize text = .ok placed ∧ placed.map (·.token) = tokens :=
  Attempt.map_eq_ok_iff

end

/-- The statements among tokens that have no place. -/
def partsOf (tokens : List Token) : List (List Token) :=
  (splitParts Token.isSemicolon [] tokens).map (·.modifyHead Token.leading)

section

variable {α β : Type} {ends : α → Bool}

theorem splitParts_append {a : α} (ha : ends a = true) (part xs ys : List α) :
    splitParts ends part (xs ++ a :: ys) = splitParts ends part xs ++ splitParts ends [] ys := by
  induction xs generalizing part with
  | nil =>
      simp only [List.nil_append, splitParts, if_pos ha]
      split <;> rfl
  | cons x xs ih =>
      rw [List.cons_append, splitParts, splitParts]
      split
      · split
        · exact ih []
        · rw [ih [], List.cons_append]
      · exact ih (x :: part)

theorem map_splitParts (f : β → α) (part xs : List β) :
    (splitParts (fun x => ends (f x)) part xs).map (·.map f) = splitParts ends (part.map f) (xs.map f) := by
  induction xs generalizing part with
  | nil =>
      rw [splitParts, List.map_nil, splitParts]
      cases part <;> simp
  | cons x xs ih =>
      rw [splitParts, List.map_cons, splitParts]
      have hnil := ih []
      split
      · cases part <;> simp [hnil]
      · exact ih (x :: part)

end

theorem map_token_modifyHead (part : List PlacedToken) :
    (part.modifyHead PlacedToken.leading).map (·.token) = (part.map (·.token)).modifyHead Token.leading := by
  cases part <;> rfl

/-- Tokens fall into statements whatever their places. -/
theorem map_token_statementsOf (tokens : List PlacedToken) :
    (statementsOf tokens).map (·.map (·.token)) = partsOf (tokens.map (·.token)) := by
  have hsplit : (splitParts (fun t : PlacedToken => t.token.isSemicolon) [] tokens).map (·.map (·.token)) =
      splitParts Token.isSemicolon [] (tokens.map (·.token)) := map_splitParts (·.token) [] tokens
  rw [statementsOf, partsOf, ← hsplit, List.map_map, List.map_map]
  exact List.map_congr_left fun part _ => map_token_modifyHead part

/-! ### Words -/

/-- The words that a statement which creates a table starts with. -/
def headWords : List String := ["CREATE", "TEMPORARY", "TABLE"]

/-- The characters that comments start with. -/
def commentSigns : List Char := ['#', '-', '/', '\x7b']

/-- Blanks, or blanks with a comment behind them. -/
def IsGap (s : List Char) : Prop := ∀ c ∈ (Text.trimLeft s).head?, c ∈ commentSigns

/-- Blanks and comments are skipped before each token, and a word is written out and goes as far as it can. -/
structure Lexed (tokens : List Token) : Prop where
  gap : ∀ t ∈ tokens, IsGap t.skipped
  solid : ∀ t ∈ tokens, t.source ≠ []
  source : ∀ t ∈ tokens, ∀ word ∈ headWords, t.isWord word = true → Text.upper t.source = word.toList
  stops : tokens.IsChain fun a b => ∀ word ∈ headWords, a.isWord word = true →
    (b.skipped ++ b.source).head?.any Text.isWordChar = false

/-- Texts are cut into words, blanks and comments. -/
class LexesWords [Dialect] : Prop where
  lexed {text : String} {tokens : List Token} : tokensOf text = .ok tokens → Lexed tokens

/-! ### Statements -/

/-- A reading of statements from their tokens. What starts with CREATE TABLE defines a table or is a command, unless it
creates a function that gives a table, and a command with CREATE for its verb keeps both the verb and all behind it as
written. -/
structure IsGrammar (read : List Token → Option Statement) : Prop where
  table {create table : Token} {rest : List Token} {s : Statement} : read (create :: table :: rest) = some s →
    create.isWord "CREATE" = true → table.isWord "TABLE" = true →
    (s.definition?.isSome ∨ ∃ verb body sql, s = .command verb body sql) ∨ rest.head?.any (·.isWord "FUNCTION") = true
  command {create : Token} {rest : List Token} {verb body sql : String} :
    read (create :: rest) = some (.command verb body sql) → create.isWord "CREATE" = true →
    verb.toList = create.source ∧ body.toList = Token.read rest

/-- Statements are read one by one from the tokens between semicolons. -/
class ReadsStatements [Dialect] : Prop where
  exists_grammar : ∃ read, IsGrammar read ∧ ∀ {text : String} {tokens : List Token},
    tokensOf text = .ok tokens → ∀ {statements : List Statement}, Dialect.parse text = .ok statements ↔
      List.Forall₂ (fun part s => read part = some s) (partsOf tokens) statements

/-! ### Two texts -/

/-- Two texts, one behind the other, in lines of their own with a semicolon between them. -/
def batch (a b : String) : String := a ++ "\n;\n" ++ b

theorem toList_batch (a b : String) : (batch a b).toList = (a.toList ++ ['\n']) ++ ';' :: '\n' :: b.toList := by
  simp [batch]

/-- A semicolon in a line of its own parts texts. A line feed behind a text ends a comment; elsewhere it is a blank,
though two hyphens are signs at the end of a text and start a comment before a line feed. -/
class PartsTexts [Dialect] : Prop where
  newline {a : String} {tokens : List Token} : tokensOf a = .ok tokens → ∃ tokens', tokensOf (a ++ "\n") = .ok tokens'
  newline_eq {a : String} {tokens : List Token} : ¬['-', '-'] <:+ a.toList → tokensOf a = .ok tokens →
    tokensOf (a ++ "\n") = .ok tokens
  batch {a b : String} {as bs : List Token} : tokensOf (a ++ "\n") = .ok as → tokensOf b = .ok bs →
    ∃ tokens, tokensOf (batch a b) = .ok tokens ∧ partsOf tokens = partsOf as ++ partsOf bs

end GormModels.Sql
