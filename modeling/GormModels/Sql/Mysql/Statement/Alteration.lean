import GormModels.Sql.Mysql.Definition.TableOption

/-!
The grammar of statements that change or drop what is defined. They declare no table, so a reading only
tells whether the grammar covers the statement.
-/

namespace GormModels.Sql.Mysql

open Reading

/-- What a statement may create or drop. -/
def objectKinds : List String :=
  ["COLUMN", "CONSTRAINT", "DATABASE", "FOREIGN KEY", "FUNCTION", "INDEX", "NAMESPACE", "PROCEDURE",
    "SCHEMA", "SEQUENCE", "TABLE", "VIEW"]

/-- What may be dropped, from behind the word DROP on, unless its kind is unknown. -/
def dropped : Reading Bool := do
  let _ ← word "TEMPORARY"
  let _ ← keyword ["MATERIALIZED"]
  match ← oneOf objectKinds with
  | none => return false
  | some kind =>
    existence false
    if kind == "COLUMN" then
      let _ ← withFuel column
    else if (← tableNames).isNone then fail .nameExpected
    if ← word "ON" then
      let _ ← anyName
    if ← atSymbol "(" then
      let _ ← wrapped (commaList (withFuel dataType))
    let _ ← keyword ["CASCADE", "RESTRICT"]
    let _ ← keyword ["CONSTRAINTS"]
    let _ ← keyword ["PURGE"]
    return true

/-- The constraints that may be added to a table. -/
def addedConstraints : List String := ["CONSTRAINT", "FOREIGN KEY", "INDEX", "KEY", "PRIMARY KEY", "UNIQUE"]

/-- A constraint that is added, with its name or without. -/
def addedConstraint : Reading (Option Unit) := do
  if ← word "CONSTRAINT" then
    let _ ← constraintLabel
    let _ ← many do
      match ← constraint true constraintWords with
      | some _ => return some ()
      | none => return (← withFuel (call · false)).map fun _ => ()
    return some ()
  else return (← constraint true tableConstraintWords).map fun _ => ()

/-- A column and where it is put, or nothing and no token taken. -/
def placedColumn : Reading (Option Unit) := do
  let start ← get
  let _ ← word "COLUMN"
  existence true
  let definition ← match ← withFuel (field · true) with
    | some name => columnBehind name
    | none => pure none
  if definition.isNone then
    set start
    return none
  else
    if (← keyword ["FIRST", "AFTER"]).isSome then
      let _ ← withFuel column
    return some ()

/-- What is added to a table. Every column has a word ADD of its own. -/
def addition : Reading (Option Unit) := do
  let explicit := (← keyword ["ADD"]).isSome
  if (← peek).any fun t => addedConstraints.any t.isWord then
    let _ ← commaList addedConstraint
    return some ()
  else if explicit then placedColumn
  else return none

/-- The new name of a column or a table. -/
def newName : Reading Bool := do
  if ← word "COLUMN" then
    existence false
    let old ← withFuel column
    let parted ← keyword ["TO"]
    let new ← withFuel column
    return old.isSome && parted.isSome && new.isSome
  else
    let _ ← keyword ["TO"]
    return (← tableNames).isSome

/-- What becomes of a column: its default, its comment, whether it may be null or is seen, or its type. -/
def columnChange : Reading Bool := do
  if ← word "INDEX" then
    let _ ← anyName
    let _ ← keyword ["VISIBLE", "INVISIBLE"]
    return true
  else
    let _ ← word "COLUMN"
    let _ ← withFuel (field · true)
    if ← keywords ["SET", "DEFAULT"] then
      let _ ← withFuel (expression · 0)
      return true
    else if ← word "COMMENT" then
      let _ ← string
      return true
    else
      let phrase ← onePhrase
        [["DROP", "DEFAULT"], ["DROP", "NOT", "NULL"], ["SET", "NOT", "NULL"], ["SET", "VISIBLE"],
          ["SET", "INVISIBLE"]]
      if phrase.isNone then
        let _ ← keywords ["SET", "DATA"]
        let _ ← keyword ["TYPE"]
        let _ ← withFuel dataType
        if ← word "COLLATE" then
          let _ ← withFuel (expression · sum)
        if ← word "USING" then
          let _ ← withFuel (expression · 0)
      return true

/-- The changes behind the name of a table, from the word of the first on. -/
def changes : Reading Bool := do
  let start ← get
  match ← keyword ["ADD", "ALTER", "CHANGE", "DROP", "MODIFY", "RENAME"] with
  | some "ADD" =>
    set start
    return !(← commaList addition).isEmpty
  | some "ALTER" => columnChange
  | some "CHANGE" =>
    let _ ← word "COLUMN"
    let _ ← anyName
    return (← placedColumn).isSome
  | some "DROP" =>
    set start
    let known ← commaList do
      if ← word "DROP" then return some (← dropped) else return none
    return known.all id
  | some "MODIFY" => return (← placedColumn).isSome
  | some _ => newName
  | none => return false

/-- The statement behind the word ALTER, unless the grammar does not cover it. -/
def alteration : Reading Bool := do
  if (← oneOf ["INDEX", "SESSION", "TABLE", "VIEW"]).isNone then return false
  else
    existence false
    let _ ← keyword ["ONLY"]
    if (← tableNames).isNone then fail .nameExpected
    if (← get).length < 2 then return false
    else if ← changes then
      let _ ← keywords ["NOT", "VALID"]
      let _ ← commaList (withFuel tableOption)
      return true
    else return false

end GormModels.Sql.Mysql
