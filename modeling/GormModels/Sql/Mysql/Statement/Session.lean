import GormModels.Sql.Mysql.Definition.Constraint

/-!
The grammar of statements that set up a session, bound a transaction, or show and grant something. They
declare no table, so a reading only tells whether the grammar covers the statement.
-/

namespace GormModels.Sql.Mysql

open Reading

/-- The characteristics that a transaction may be given. -/
def transactionPhrases : List (List String) :=
  [["ISOLATION", "LEVEL", "REPEATABLE", "READ"], ["ISOLATION", "LEVEL", "READ", "COMMITTED"],
    ["ISOLATION", "LEVEL", "READ", "UNCOMMITTED"], ["ISOLATION", "LEVEL", "SERIALIZABLE"],
    ["READ", "WRITE"], ["READ", "ONLY"]]

/-- A string or a name. -/
def setting : Reading Unit := do
  let _ ← withFuel (field · false)

/-- A variable that is given a value, or nothing and no token taken. -/
def assignment : Reading (Option Unit) := do
  let start ← get
  let target ← withFuel column
  let sign ← takeIf fun t => t.keyText ∈ ["=", ":=", "TO"]
  if target.isNone || sign.isNone then
    set start
    return none
  else
    match ← withFuel (expression · 0) with
    | some e =>
      let _ ← aliased e
    | none =>
      let _ ← anyName
    return some ()

/-- One item of SET. -/
def setItem : Reading (Option Unit) := do
  let transaction : Reading (Option Unit) := do
    let _ ← commaList (onePhrase transactionPhrases)
    return some ()
  if (← keyword ["NAMES"]).isSome then
    setting
    if ← word "COLLATE" then setting
    return some ()
  else if (← keyword ["CHARACTER SET", "CHARSET"]).isSome then
    setting
    return some ()
  else if (← keyword ["TRANSACTION"]).isSome then transaction
  else if (← keyword ["GLOBAL", "LOCAL", "PERSIST", "PERSIST_ONLY", "SESSION"]).isSome then
    if (← keyword ["TRANSACTION"]).isSome then transaction else assignment
  else assignment

/-- The statement behind the word SET. -/
def settings : Reading Bool := do
  let _ ← commaList setItem
  return true

/-- The statement behind USE. -/
def usedDatabase : Reading Unit := do
  if ((← get).drop 1).isEmpty then pure ()
  else
    let _ ← keyword ["CATALOG", "DATABASE", "ROLE", "SCHEMA", "WAREHOUSE"]
  match ← tableNames with
  | none => fail .nameExpected
  | some names =>
    let _ ← aliased (.name names)

/-- The statement behind BEGIN or START. -/
def transactionStart : Reading Unit := do
  let _ ← keyword ["DEFERRED", "IMMEDIATE", "EXCLUSIVE"]
  let _ ← keyword ["TRANSACTION", "WORK"]
  let mode : Reading (Option Unit) := do
    let _ ← many (takeIf fun t => t.isFreeWord || t.isWord "NOT")
    return some ()
  let _ ← commaList mode

/-- The statement behind COMMIT or ROLLBACK. -/
def transactionEnd : Reading Unit := do
  let _ ← keyword ["TRANSACTION", "WORK"]
  if (← keyword ["TO"]).isSome then
    let _ ← keyword ["SAVEPOINT"]
    let _ ← anyName
  if ← word "AND" then
    let _ ← keyword ["NO"]
    let _ ← keyword ["CHAIN"]

/-- What may be shown. -/
def shownPhrases : List (List String) :=
  [["BINARY", "LOGS"], ["MASTER", "LOGS"], ["BINLOG", "EVENTS"], ["CHARACTER SET"], ["CHARSET"],
    ["COLLATION"], ["FULL", "COLUMNS"], ["COLUMNS"], ["CREATE", "DATABASE"], ["CREATE", "EVENT"],
    ["CREATE", "FUNCTION"], ["CREATE", "PROCEDURE"], ["CREATE", "TABLE"], ["CREATE", "TRIGGER"],
    ["CREATE", "VIEW"], ["DATABASES"], ["SCHEMAS"], ["ENGINE"], ["STORAGE", "ENGINES"], ["ENGINES"],
    ["ERRORS"], ["EVENTS"], ["FUNCTION", "CODE"], ["FUNCTION", "STATUS"], ["GRANTS"], ["INDEX"],
    ["MASTER", "STATUS"], ["OPEN", "TABLES"], ["PLUGINS"], ["PROCEDURE", "CODE"],
    ["PROCEDURE", "STATUS"], ["PRIVILEGES"], ["FULL", "PROCESSLIST"], ["PROCESSLIST"], ["PROFILE"],
    ["PROFILES"], ["RELAYLOG", "EVENTS"], ["REPLICAS"], ["SLAVE", "HOSTS"], ["REPLICA", "STATUS"],
    ["SLAVE", "STATUS"], ["GLOBAL", "STATUS"], ["SESSION", "STATUS"], ["STATUS"], ["TABLE", "STATUS"],
    ["FULL", "TABLES"], ["TABLES"], ["TRIGGERS"], ["GLOBAL", "VARIABLES"], ["SESSION", "VARIABLES"],
    ["VARIABLES"], ["WARNINGS"]]

/-- The rights behind GRANT or REVOKE, what they are on, and whom they go to or are taken from. -/
def rights (preposition : String) : Reading Bool := do
  let right : Reading (Option Unit) := do
    let _ ← many (takeIf fun t => !(t.isWord "ON" || t.isSymbol "," || t.isSymbol "("))
    if ← atSymbol "(" then
      let _ ← wrapped (commaList (withFuel column))
    return some ()
  let _ ← commaList right
  let _ ← word "ON"
  let _ ← oneOf ["DATABASE", "FUNCTION", "INDEX", "NAMESPACE", "PROCEDURE", "SCHEMA", "SEQUENCE", "TABLE",
    "VIEW"]
  if (← tableNames).isNone then return false
  else if (← keyword [preposition]).isNone then return false
  else
    let _ ← commaList do
      let _ ← keyword ["GROUP", "ROLE"]
      anyName
    let _ ← keywords ["WITH", "GRANT", "OPTION"]
    let _ ← keyword ["CASCADE", "RESTRICT"]
    return true

/-- The tables behind TRUNCATE. -/
def truncated : Reading Bool := do
  let _ ← word "DATABASE"
  let _ ← word "TABLE"
  existence false
  let tables ← commaList tableNames
  let _ ← keywords ["RESTART", "IDENTITY"]
  let _ ← keywords ["CONTINUE", "IDENTITY"]
  let _ ← keyword ["CASCADE", "RESTRICT"]
  return !tables.isEmpty

end GormModels.Sql.Mysql
