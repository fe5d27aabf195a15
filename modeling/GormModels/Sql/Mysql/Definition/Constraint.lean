import GormModels.Sql.Mysql.Definition
import GormModels.Sql.Mysql.Expr.Grammar

/-!
The grammar of constraints and of the columns that they stand at.
-/

namespace GormModels.Sql.Mysql

open Reading

/-- The words that start a constraint. -/
def constraintWords : List String :=
  ["AUTOINCREMENT", "AUTO_INCREMENT", "BUCKET", "CASESPECIFIC", "CHARACTER SET", "CHARSET", "CHECK",
    "CLUSTERED", "COLLATE", "COMMENT", "COMPRESS", "DEFAULT", "ENCODE", "EPHEMERAL", "EXCLUDE",
    "FOREIGN KEY", "FORMAT", "FULLTEXT", "GENERATED", "IDENTITY", "INDEX", "INLINE", "INVISIBLE",
    "KEY", "LIKE", "NONCLUSTERED", "NOT", "NULL", "ON", "PATH", "PERIOD", "PRIMARY KEY", "REFERENCES",
    "SPATIAL", "TITLE", "TRUNCATE", "TTL", "UNIQUE", "UPPERCASE", "WATERMARK", "WITH", "ZEROFILL"]

/-- The constraints that a table may have without a name. -/
def tableConstraintWords : List String :=
  ["BUCKET", "CHECK", "EXCLUDE", "FOREIGN KEY", "FULLTEXT", "INDEX", "KEY", "LIKE", "PERIOD",
    "PRIMARY KEY", "SPATIAL", "TRUNCATE", "UNIQUE", "WATERMARK"]

/-- The names in one level of parentheses. -/
def nameList : Reading (List Name) := wrapped (commaList anyName)

/-- A table by its qualified name. -/
def tableNames : Reading (Option (List Name)) := do
  let part : Reading (Option Name) := do
    return (← takeIf fun t => t.isPlainName || t.kind == .string).map Token.toName
  match ← part with
  | none => return none
  | some first =>
    let more ← many do
      if ← symbol "." then part else return none
    return some (first :: more)

/-- A table by the last of its qualified names. -/
def tableName : Reading (Option String) := do
  return (← tableNames).map fun names => (names.getLast?.map Name.text).getD ""

/-- One column or expression of a key, with its direction. -/
def keyPart : Reading (Option Expr) := do
  match ← withFuel (expression · 0) with
  | none => return none
  | some e =>
    let _ ← word "ASC"
    let _ ← word "DESC"
    let _ ← words ["NULLS", "FIRST"]
    let _ ← words ["NULLS", "LAST"]
    return some e

def keyParts : Reading (List Expr) := wrapped (commaList keyPart)

/-- A column of a primary key, with the length of the part that counts. -/
def primaryKeyPart : Reading (Option Name) := do
  let name ← anyName
  if ← symbol "(" then
    let _ ← takeIf (·.kind == .number)
    closeParen
  return name

/-- The method of an index. -/
def indexMethod : Reading Unit := do
  if ← word "USING" then
    let _ ← anyName

/-- What tells how an index is kept and which rows it holds. -/
def indexDetails : Reading Unit := do
  indexMethod
  if ← atSymbol "(" then
    let _ ← keyParts
  if (← keyword ["INCLUDE"]).isSome then
    let _ ← nameList
  if ← word "PARTITION BY" then
    let _ ← commaList (withFuel (expression · 0))
  if ← word "WITH" then
    let _ ← wrapped (commaList (withFuel (expression · 0)))
  if ← word "WHERE" then
    let _ ← withFuel (expression · 0)
  if ← word "ON" then
    let _ ← withFuel (field · false)

/-- What follows a key and does not change its columns. -/
def keyOption : Reading (Option Unit) := do
  if (← keyword ["KEY_BLOCK_SIZE"]).isSome then
    let _ ← equalsSign
    let _ ← takeIf (·.kind == .number)
    return some ()
  else if ← word "USING" then
    let _ ← anyName
    return some ()
  else if ← keywords ["WITH", "PARSER"] then
    let _ ← anyName
    return some ()
  else if ← word "COMMENT" then
    let _ ← string
    return some ()
  else if (← keyword ["ENGINE_ATTRIBUTE", "SECONDARY_ENGINE_ATTRIBUTE"]).isSome then
    let _ ← equalsSign
    let _ ← string
    return some ()
  else if (← keyword ["VISIBLE", "INVISIBLE"]).isSome then return some ()
  else return none

/-- What a key may say on how it is checked. -/
def checkPhrases : List (List String) :=
  [["NOT", "ENFORCED"], ["MATCH", "FULL"], ["MATCH", "PARTIAL"], ["MATCH", "SIMPLE"],
    ["INITIALLY", "DEFERRED"], ["INITIALLY", "IMMEDIATE"], ["USING", "BTREE"], ["USING", "HASH"],
    ["DEFERRABLE"], ["NORELY"], ["RELY"]]

/-- What happens to a row when the one that it refers to changes. -/
def rowActions : List (List String) :=
  [["NO", "ACTION"], ["CASCADE"], ["RESTRICT"], ["SET", "NULL"], ["SET", "DEFAULT"]]

/-- The first of some phrases that follows, with its words put together. -/
def onePhrase (phrases : List (List String)) : Reading (Option String) := do
  for phrase in phrases do
    if ← keywords phrase then return some (" ".intercalate phrase)
  return none

/-- What a key may say on changes of the rows it refers to, and how it is checked. -/
def keyAction : Reading (Option String) := do
  if ← word "ON" then
    let event ← anyName
    match ← onePhrase rowActions with
    | some action => return some ("ON " ++ event.elim "None" Name.text ++ " " ++ action)
    | none => fail .keyActionExpected
  else onePhrase checkPhrases

/-- A column that a foreign key refers to. A type behind it counts for nothing. -/
def referencedColumn : Reading (Option Expr) := do
  match ← withFuel (field · true) with
  | none => return none
  | some e =>
    let _ ← withFuel dataType
    return some e

/-- The table and columns that a foreign key refers to. -/
def reference : Reading Reference := do
  match ← tableNames with
  | none => fail .nameExpected
  | some table =>
    let columns ← if ← atSymbol "(" then wrapped (commaList referencedColumn) else pure []
    return ⟨table, columns, ← many keyAction⟩

/-- The primary key behind its words: that of a column, or a list of columns that may have a name. -/
def primaryKey : Reading Constraint := do
  let direction ← oneOf ["ASC", "DESC"]
  match ← get with
  | t :: p :: rest =>
    if t.isAnyName && t.keyText ∉ constraintWords && p.isSymbol "(" then set (p :: rest)
  | _ => pure ()
  if ← atSymbol "(" then
    let columns ← wrapped (commaList primaryKeyPart)
    indexDetails
    return .primaryKey columns (← many keyAction)
  else
    let details ← many keyAction
    return .key (direction.elim details fun d => [d])

/-- A unique key behind its word. Its name is no word that starts another constraint. -/
def uniqueKey : Reading Constraint := do
  let _ ← keyword ["KEY", "INDEX"]
  let name ← takeIf fun t =>
    t.isPlainName && (t.kind == .quotedName || t.keyText ∉ constraintWords)
  indexMethod
  let columns ← if ← atSymbol "(" then some <$> keyParts else pure none
  let _ ← if columns.isSome then many keyOption else pure []
  return .unique (name.map Token.toName) columns

/-- An index behind its word. -/
def indexKey (kind : String) : Reading Constraint := do
  let _ ← if kind == "" then pure none else keyword ["INDEX", "KEY"]
  let name ← plainName
  indexMethod
  let columns ← keyParts
  let _ ← many keyOption
  return .index kind name columns

/-- What a foreign key without a target says on changes of rows. -/
def looseAction : Reading (Option Unit) := do
  if ← word "ON" then
    if (← oneOf ["DELETE", "UPDATE"]).isNone then fail .eventExpected
    if ← keywords ["NO", "ACTION"] then return some ()
    else if ← word "SET" then
      let _ ← oneOf ["NULL", "DEFAULT"]
      return some ()
    else
      let _ ← takeIf fun _ => true
      return some ()
  else return none

/-- A foreign key behind its words. A name before its columns counts for nothing. -/
def foreignKey : Reading Constraint := do
  let columns ← if ← atWord "REFERENCES" then pure [] else do
    match ← get with
    | t :: p :: rest => if t.isAnyName && p.isSymbol "(" then set (p :: rest)
    | _ => pure ()
    nameList
  let target ← if ← word "REFERENCES" then some <$> reference else pure none
  let _ ← many looseAction
  let _ ← many keyAction
  return .foreignKey columns target

def checkBody : Reading Expr := do
  let e ← wrapped (withFuel (expression · 0))
  match e with
  | some e => return e
  | none => fail .expressionExpected

/-- The text of a column that is computed. Parentheses around its expression are written once. -/
def computedText (e : Expr) (kept : Bool) : String :=
  "GENERATED ALWAYS AS (" ++ e.unwrapped.render ++ ") " ++ (if kept then "STORED" else "VIRTUAL")

/-- How an automatic number runs: each property with its words and its value. -/
structure NumberRun where
  start : String := ""
  increment : String := ""
  least : String := ""
  greatest : String := ""
  cycle : String := ""

/-- The properties in parentheses, or nothing where none of them tells how the numbers run. -/
def NumberRun.render (r : NumberRun) : String :=
  if r.start == "" && r.increment == "" && r.cycle == "" then ""
  else " (" ++ " ".intercalate ([r.start, r.increment, r.least, r.greatest, r.cycle].filter (· != "")) ++ ")"

/-- A property of an automatic number behind its word, with its value. -/
def runProperty (found : Bool) (written : String) : Reading String := do
  if found then
    return (← withFuel (expression · arithmetic)).elim "" fun e => written ++ " " ++ e.render
  else return ""

/-- The properties of an automatic number in the order in which they may follow. -/
def numberRun : Reading NumberRun := do
  let start ← runProperty (← keyword ["START WITH"]).isSome "START WITH"
  let increment ← runProperty (← keywords ["INCREMENT", "BY"]) "INCREMENT BY"
  let least ← runProperty (← keyword ["MINVALUE"]).isSome "MINVALUE"
  let greatest ← runProperty (← keyword ["MAXVALUE"]).isSome "MAXVALUE"
  let cycle ← onePhrase [["CYCLE"], ["NO", "CYCLE"]]
  return { start, increment, least, greatest, cycle := cycle.getD "" }

/-- A run by its first number and its step. -/
def NumberRun.ofPair (r : NumberRun) (start increment : Option Expr) : NumberRun :=
  { r with
    start := start.elim "" fun e => "START WITH " ++ e.render
    increment := increment.elim "" fun e => "INCREMENT BY " ++ e.render }

/-- Behind GENERATED: an identity, a mark of the row's time, or a computed column with where it is kept. -/
def generated : Reading Constraint := do
  let byDefault ← keywords ["BY", "DEFAULT"]
  let onNull ← if byDefault then words ["ON", "NULL"] else pure false
  if !byDefault then
    let _ ← keyword ["ALWAYS"]
  let kind := if !byDefault then "ALWAYS" else if onNull then "BY DEFAULT ON NULL" else "BY DEFAULT"
  let _ ← word "AS"
  if (← keyword ["ROW"]).isSome then
    let start := (← keyword ["START"]).isSome
    if !start then
      let _ ← word "END"
    let hidden := (← keyword ["HIDDEN"]).isSome
    return .other ("GENERATED ALWAYS AS ROW " ++ (if start then "START" else "END") ++
      if hidden then " HIDDEN" else "")
  let identity := (← keyword ["IDENTITY"]).isSome
  let mut run : NumberRun := {}
  let mut body : Option Expr := none
  if ← symbol "(" then
    run ← numberRun
    if !identity then
      body ← withFuel (expression · testStrength)
    else if run.start == "" && (← peek).any (·.kind == .number) then
      let pair ← commaList (withFuel (expression · arithmetic))
      run := run.ofPair pair.head? (pair.drop 1).head?
    closeParen
  match body, ← keyword ["STORED", "VIRTUAL"] with
  | some e, some kept => return .other (computedText e (kept == "STORED"))
  | some e, none => return .other ("GENERATED " ++ kind ++ " AS (" ++ e.render ++ ")" ++ run.render)
  | none, _ => return .other ("GENERATED " ++ kind ++ " AS IDENTITY" ++ run.render)

/-- Where an automatic number starts and by how much it grows. Only one that has both is an identity. -/
def automaticNumber : Reading Constraint := do
  let number : Reading (Option Expr) := withFuel (expression · arithmetic)
  let identity (start increment : Option Expr) : Constraint :=
    if start.isSome && increment.isSome then
      .other ("GENERATED BY DEFAULT AS IDENTITY" ++ (NumberRun.ofPair {} start increment).render)
    else .autoIncrement
  if ← atSymbol "(" then
    let items ← wrapped (commaList number)
    return identity items.head? (items.drop 1).head?
  else if (← keyword ["START"]).isSome then
    let start ← number
    let _ ← keyword ["INCREMENT"]
    let increment ← number
    let _ ← keyword ["ORDER", "NOORDER"]
    return identity start increment
  else return .autoIncrement

/-- The function that sets a column whenever its row changes, or another property of the kind ON. -/
def onConstraint : Reading Constraint := do
  if ← word "UPDATE" then
    match ← withFuel (call · false) with
    | some e => return .other ("ON UPDATE " ++ e.render)
    | none => fail .expressionExpected
  else return .other ("ON " ++ (← anyName).elim "" Name.render)

/-- A collation: a quoted name, or a column, which is written like any column. -/
def collation : Reading Constraint := do
  match ← takeIf (·.kind == .quotedName) with
  | some t => return .collation t.text (quoteName t.text)
  | none =>
    match ← withFuel column with
    | some (.string s) => return .collation s (quoteString s)
    | some e => return .collation e.render e.render
    | none => fail .nameExpected

/-- What a table is made like, with what is taken over. -/
def likeTable : Reading Unit := do
  let _ ← tableName
  if ← atSymbol "(" then
    let _ ← nameList
  let _ ← many do
    match ← keyword ["INCLUDING", "EXCLUDING"] with
    | some _ => return (← anyName).map fun _ => ()
    | none => return none

/-- A constraint with a value that counts for nothing here. -/
def valued (word : String) (value : Reading (Option String)) : Reading Constraint := do
  return .other (renderBehind word (← value).toList)

/-- A constraint behind the word that starts it, or nothing if the word starts none after all. -/
def constraintBehind (inTable : Bool) (word : String) : Reading (Option Constraint) := do
  let expressionText (strength : Nat) : Reading (Option String) := do
    return (← withFuel (expression · strength)).map Expr.render
  match word with
  | "AUTOINCREMENT" | "AUTO_INCREMENT" | "IDENTITY" => some <$> automaticNumber
  | "BUCKET" | "TRUNCATE" =>
    if ← atSymbol "(" then
      let _ ← wrapped (commaList (withFuel (expression · arithmetic)))
      return some (.other word)
    else return none
  | "CASESPECIFIC" | "INVISIBLE" | "UPPERCASE" | "ZEROFILL" => return some (.other word)
  | "CHARACTER SET" | "CHARSET" =>
    match ← takeIf fun t => t.kind == .string || t.isAnyName with
    | some t => return some (.characterSet t.text (if t.kind == .string then quoteString t.text else t.text))
    | none => fail .nameExpected
  | "CHECK" =>
    let e ← checkBody
    let enforced := (← keyword ["ENFORCED"]).isSome
    return some (.other ("CHECK (" ++ e.render ++ ")" ++ if enforced then " ENFORCED" else ""))
  | "CLUSTERED" | "NONCLUSTERED" =>
    return some (.other (word ++ " " ++ renderColumns ((← keyParts).map Expr.render)))
  | "COLLATE" => some <$> collation
  | "COMMENT" =>
    match ← string with
    | some s => return some (.comment s)
    | none => fail .expressionExpected
  | "COMPRESS" | "EPHEMERAL" | "TTL" => some <$> valued word (expressionText arithmetic)
  | "DEFAULT" =>
    match ← withFuel (expression · arithmetic) with
    | some e => return some (.default e)
    | none => fail .expressionExpected
  | "ENCODE" | "FORMAT" | "TITLE" => some <$> valued word stringOrWord
  | "EXCLUDE" =>
    indexDetails
    return some (.other "EXCLUDE")
  | "FOREIGN KEY" => some <$> foreignKey
  | "FULLTEXT" | "SPATIAL" => some <$> indexKey word
  | "GENERATED" => some <$> generated
  | "INDEX" => some <$> indexKey ""
  | "INLINE" =>
    let _ ← keyword ["LENGTH"]
    some <$> valued "INLINE LENGTH" (expressionText arithmetic)
  | "KEY" => if inTable then some <$> indexKey "" else some <$> primaryKey
  | "LIKE" =>
    likeTable
    return some (.other "LIKE")
  | "NOT" =>
    if ← Reading.word "NULL" then return some .notNull
    else if (← keyword ["CASESPECIFIC"]).isSome then return some (.other "NOT CASESPECIFIC")
    else return none
  | "NULL" => return some .null
  | "ON" => some <$> onConstraint
  | "PATH" => some <$> valued word string
  | "PRIMARY KEY" => some <$> primaryKey
  | "REFERENCES" => return some (.other (← reference).render)
  | "UNIQUE" => some <$> uniqueKey
  | "WATERMARK" =>
    let _ ← Reading.word "FOR"
    let _ ← withFuel column
    let _ ← Reading.word "AS"
    let _ ← withFuel (expression · 0)
    return some (.other word)
  | "WITH" =>
    let _ ← wrapped (commaList (withFuel (expression · 0)))
    return some (.other word)
  | _ => return none

/-- A constraint that starts with one of the words, or nothing and no token taken. -/
def constraint (inTable : Bool) (starting : List String) : Reading (Option Constraint) := do
  let start ← get
  match ← keyword starting with
  | none => return none
  | some word =>
    match ← constraintBehind inTable word with
    | some c => return some c
    | none =>
      set start
      return none

/-- The name of a constraint, which may be left out before a word that starts one. -/
def constraintLabel : Reading (Option Name) := do
  if (← peek).any fun t => t.kind == .word && t.keyText ∈ tableConstraintWords then return none
  else anyName

/-- Whether a constraint is told by words alone, so that no expression in it has taken the comments behind
it. -/
def Constraint.isWords : Constraint → Bool
  | notNull | null | autoIncrement | key [] | unique none none => true
  | _ => false

/-- A constraint of a column, or nothing. A name alone is one, too. -/
def columnConstraint : Reading (Option ColumnConstraint) := do
  let label ← if ← word "CONSTRAINT" then constraintLabel else pure none
  let tokens ← get
  match ← constraint false constraintWords with
  | some c =>
    let last := (tokens.take (tokens.length - (← get).length)).getLast?
    return some ⟨label, c, if c.isWords then last.elim [] Token.comments else []⟩
  | none => return label.map fun n => ⟨none, .other n.render, []⟩

/-- What stands between the type of a column and its constraints: the expression that it is computed by, or
where its value comes from and goes. -/
def columnSource (typed : Bool) : Reading (List Constraint × Option DataType) := do
  let computed : Reading (List Constraint × Option DataType) := do
    let e ← required (withFuel (expression · 0))
    let kept := (← keyword ["PERSISTED"]).isSome
    let _ ← withFuel dataType
    let _ ← words ["NOT", "NULL"]
    return ([.other (computedText e kept)], none)
  if (← keyword ["ALIAS", "MATERIALIZED"]).isSome then computed
  else if typed then
    match ← get with
    | t :: p :: rest =>
      if t.isWord "AS" && p.isSymbol "(" then
        set (p :: rest)
        let e ← required (withFuel (expression · 0))
        let kept ← keyword ["STORED", "VIRTUAL"]
        return ([.other (computedText e (kept == some "STORED"))], none)
      else return ([], none)
    | _ => return ([], none)
  else if ← word "AS" then computed
  else
    let directions := (← oneOf ["IN"]).toList ++ (← oneOf ["OUT"]).toList
    if directions.isEmpty then return ([], none)
    else return ([.other (" ".intercalate directions)], ← withFuel dataType)

/-- A column from behind its name: its type and its constraints. A name alone declares nothing. -/
def columnBehind (name : Expr) : Reading (Option ColumnDefinition) := do
  let type ← withFuel dataType
  let (source, sourceType) ← columnSource type.isSome
  let type := type <|> sourceType
  let constraints := source.map (⟨none, ·, []⟩) ++ (← many columnConstraint)
  if type.isNone && constraints.isEmpty then return none
  else return some { name, type, constraints }

end GormModels.Sql.Mysql
