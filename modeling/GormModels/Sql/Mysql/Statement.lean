import GormModels.Sql.Mysql.Definition.Grammar
import GormModels.Sql.Mysql.Statement.Alteration
import GormModels.Sql.Mysql.Statement.Session

/-!
Statements. Of a statement only the definition of a table matters; one that the grammar does not cover is
kept as a command, and all others are read past.
-/

namespace GormModels.Sql.Mysql

open Reading

inductive Statement
  | table (definition : TableDefinition)
  | command
  | other

/-- The first words of statements that are kept as commands. -/
def commandVerbs : List String :=
  ["CALL", "EXECUTE", "FETCH", "LOCK TABLES", "OPTIMIZE", "PREPARE", "RENAME", "REPLACE", "UNLOCK TABLES",
    "VACUUM"]

/-- The first words of statements that are read past up to a parenthesis that closes none of theirs. -/
def passedVerbs : List String :=
  ["ANALYZE", "CACHE", "COMMENT", "COPY", "DELETE", "DESC", "DESCRIBE", "EXPLAIN", "FROM", "INSERT",
    "KILL", "LOAD", "MERGE", "PIVOT", "PRAGMA", "UNCACHE", "UNPIVOT", "UPDATE", "VALUES"]

namespace Reading

/-- A statement whose grammar is left for a command. -/
def command : Reading Statement := do
  rest
  return .command

/-- A statement that is a command unless the grammar covers it. -/
def coveredOrCommand (r : Reading Bool) : Reading Statement := do
  if ← r then return .other else command

/-- A statement that is a command unless the grammar covers all of it. -/
def wholeOrCommand (r : Reading Bool) : Reading Statement := do
  if (← r) && (← get).isEmpty then return .other else command

/-- A closing parenthesis or a comma that is left over is an error; any other leftover makes the whole a
command. -/
def createdOrCommand (s : Statement) : Reading Statement := do
  match ← peek with
  | none => return s
  | some t => if t.isSymbol ")" || t.isSymbol "," then return s else command

end Reading

/-- Reads past tokens up to a parenthesis that closes none of them; each of theirs must be closed. -/
def passedOver : Reading Unit := do
  let tokens ← get
  balanced
  let taken := tokens.take (tokens.length - (← get).length)
  if taken.countP (·.isSymbol ")") < taken.countP (·.isSymbol "(") then
    closeParen

/-- An index behind its words. -/
def createdIndex : Reading Unit := do
  unless ← word "ON" do
    let _ ← anyName
    let _ ← word "ON"
  let _ ← word "TABLE"
  match ← tableNames with
  | none => fail .nameExpected
  | some _ => indexDetails

/-- A statement behind the word CREATE. -/
def createStatement : Reading Statement := do
  if (← peek).any (·.isWord "OR") then
    unless ← words ["OR", "REPLACE"] do
      let _ ← words ["OR", "ALTER"]
  let _ ← word "UNIQUE"
  let atKind := (← peek).any fun t => objectKinds.any t.isWord
  let options ← if atKind then pure [] else tableOptions
  match ← oneOf objectKinds with
  | none => command
  | some kind =>
    if !atKind && options.isEmpty then command
    else if kind ∈ tableKinds then
      let definition ← tableDefinition kind
      let definition := { definition with options := options ++ definition.options }
      createdOrCommand (if kind == "TABLE" then .table definition else .other)
    else if kind == "INDEX" then
      existence true
      createdIndex
      createdOrCommand .other
    else if kind == "FUNCTION" || kind == "PROCEDURE" then
      rest
      return .other
    else createdOrCommand .other

/-- An expression with the name that may follow it. -/
def expressionStatement : Reading Statement := do
  match ← withFuel (expression · 0) with
  | some e =>
    let _ ← aliased e
    return .other
  | none =>
    let _ ← word "AS"
    return .other

/-- Whether a query follows, in parentheses or not. -/
def startsQuery (tokens : List Token) : Bool :=
  (tokens.dropWhile (·.isSymbol "(")).head?.any Token.opensQuery

/-- The tokens behind CREATE where that word follows the queries of WITH, of which each ends in a parenthesis. -/
def behindQueries? (depth : Nat) : List Token → Option (List Token)
  | [] => none
  | t :: rest =>
    if t.isSymbol "(" then behindQueries? (depth + 1) rest
    else if !t.isSymbol ")" then behindQueries? depth rest
    else if depth > 1 then behindQueries? (depth - 1) rest
    else
      match rest with
      | [] => none
      | next :: more =>
        if next.isSymbol "," || next.isWord "AS" then behindQueries? 0 more
        else if next.isWord "CREATE" then some more
        else none

/-- A statement behind WITH. A definition may follow the queries as a query may, but no command. -/
def queriedStatement : Reading Statement := do
  match behindQueries? 0 (← get) with
  | some more =>
    set more
    match ← createStatement with
    | .command => fail .commandBehindQueries
    | s => return s
  | none =>
    passedOver
    return .other

def statementBody : Reading Statement := do
  let start ← get
  let done (r : Reading Unit) : Reading Statement := do
    r
    return .other
  if start.head?.any (·.isWord "WITH") then queriedStatement
  else if startsQuery start then done passedOver
  else
    match ← takeIf (·.kind == .word) with
    | none => expressionStatement
    | some t =>
      match Text.upperText t.text with
      | "ALTER" => wholeOrCommand alteration
      | "BEGIN" | "START" => done transactionStart
      | "COMMIT" | "ROLLBACK" => done transactionEnd
      | "CREATE" => createStatement
      | "DROP" => coveredOrCommand dropped
      | "GRANT" => wholeOrCommand (rights "TO")
      | "REVOKE" => wholeOrCommand (rights "FROM")
      | "SET" => wholeOrCommand settings
      | "SHOW" =>
        if (← onePhrase shownPhrases).isSome then done passedOver else command
      | "TRUNCATE" => wholeOrCommand truncated
      | "USE" => done usedDatabase
      | verb =>
        if verb ∈ commandVerbs then command
        else if verb ∈ passedVerbs then done passedOver
        else
          set start
          expressionStatement

/-- A whole statement: nothing of it may be left. -/
def statement : Reading Statement := do
  let s ← statementBody
  match ← get with
  | [] => return s
  | _ => fail .unexpectedToken

end GormModels.Sql.Mysql
