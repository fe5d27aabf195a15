import GormModels.Sql.Mysql.Definition.TableOption

/-!
The grammar of CREATE TABLE: the items of the table with the statement around them.
-/

namespace GormModels.Sql.Mysql

open Reading

/-- One of the constraints behind a name. A function's call may stand among them and says nothing. -/
def namedConstraint (label : Option Name) : Reading (Option (List TableItem)) := do
  let quoted := (← peek).any (·.kind == .quotedName)
  match ← if quoted then pure none else constraint true constraintWords with
  | some c => return some [.constraint (label.map Name.text) c]
  | none => return (← withFuel (call · false)).map fun _ => []

/-- One item of a table: a named or unnamed constraint, or a column. -/
def tableItem : Reading (Option (List TableItem)) := do
  if ← word "CONSTRAINT" then
    let label ← constraintLabel
    return some (← many (namedConstraint label)).flatten
  else
    let quoted := (← peek).any (·.kind == .quotedName)
    match ← if quoted then pure none else constraint true tableConstraintWords with
    | some c => return some [.constraint none c]
    | none =>
      match ← withFuel (field · true) with
      | none => return none
      | some name => return some ((← columnBehind name).map .column).toList

/-- The items of a table in parentheses, unless these hold a query. -/
def tableItems : Reading (List TableItem) := do
  match ← get with
  | p :: rest =>
    let query := rest.head?.any fun t => t.isSymbol "(" || t.opensQuery
    if p.isSymbol "(" && !query then
      let note (items : List TableItem) (comments : List String) : List TableItem :=
        items.map (·.noted comments)
      let items ← wrapped do
        commaSeparated note tableItem (← get).length
      return items.flatten
    else return []
  | [] => return []

/-- Takes the tokens up to a parenthesis that closes none of them. -/
def balanced : Reading Unit := do
  let tokens ← get
  set (tokens.drop (balancedLength 0 tokens))

/-- The words that start a query without parentheses. -/
def queryWords : List String := ["FROM", "SELECT", "VALUES", "WITH"]

/-- The query that a table is filled from, which declares no column. -/
def tableQuery : Reading Bool := do
  let tokens ← get
  let parens := (tokens.takeWhile (·.isSymbol "(")).length
  let inner := tokens.drop parens
  if inner.head?.any fun t => queryWords.any t.isWord then
    balanced
    return true
  else if ← word "TABLE" then
    let _ ← tableName
    let _ ← tableItems
    return true
  else if parens > 0 then
    set inner
    let _ ← tableName
    let _ ← word "AS"
    let _ ← plainName
    for _ in List.range parens do closeParen
    return true
  else return false

/-- An index behind a table, with the options behind it. -/
def trailingIndex : Reading (Option (List TableOption)) := do
  let _ ← word "UNIQUE"
  let _ ← keyword ["PRIMARY"]
  let _ ← keyword ["AMP"]
  if ← word "INDEX" then
    let _ ← anyName
    indexDetails
    let options ← tableOptions
    let _ ← symbol ","
    return some options
  else return none

/-- The kinds of objects whose definition is like that of a table. -/
def tableKinds : List String := ["DATABASE", "NAMESPACE", "SCHEMA", "SEQUENCE", "TABLE", "VIEW"]

/-- The statement from the name of the object on. -/
def tableDefinition (kind : String) : Reading TableDefinition := do
  existence true
  match ← tableName with
  | none => fail .nameExpected
  | some name =>
    let before ← leadingOptions
    let items ← tableItems
    let after ← tableOptions
    let filled ← word "AS"
    let atQuery := (← peek).any fun t => t.isSymbol "(" || t.opensQuery
    let between ← if atQuery then pure [] else tableOptions
    if kind == "SEQUENCE" then
      let _ ← withFuel dataType
      let _ ← tableOptions
    else unless ← tableQuery do
      if filled then
        let _ ← tableName
    let last ←
      if kind == "TABLE" then do
        let options ← tableOptions
        let indexed ← many trailingIndex
        pure (options ++ indexed.flatten ++ (← tableOptions))
      else pure []
    if (← keyword ["CLONE", "COPY"]).isSome then
      let _ ← tableName
    return ⟨name, items, before ++ after ++ between ++ last⟩

end GormModels.Sql.Mysql
