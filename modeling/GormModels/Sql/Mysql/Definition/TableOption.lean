import GormModels.Sql.Mysql.Definition.Constraint

/-!
The grammar of the options of a table. An option is a word that the grammar knows with its value, a property
of a sequence, or any other name with a value behind an equals sign, which says nothing here.
-/

namespace GormModels.Sql.Mysql

open Reading

/-- The options whose value may follow an equals sign or the word AS. -/
def assignedOptions : List String :=
  ["ALGORITHM", "AUTO_INCREMENT", "COLLATE", "COMMENT", "DISTSTYLE", "ENGINE", "EXECUTE", "FORMAT",
    "LANGUAGE", "LOCATION", "LOCK", "ROW_FORMAT", "SHARING", "USING"]

/-- The options that are a word and no more. -/
def flagOptions : List String :=
  ["DETERMINISTIC", "DYNAMIC", "EMPTY", "EXTERNAL", "GLOBAL", "HEAP", "ICEBERG", "IMMUTABLE", "JOURNAL",
    "LOG", "MATERIALIZED", "MULTISET", "SECURE", "SET", "STABLE", "STREAMING", "STRICT", "TEMP",
    "TEMPORARY", "TRANSIENT", "UNLOGGED", "VOLATILE"]

/-- The other options that start with a word of their own. -/
def phraseOptions : List String :=
  ["CHARACTER SET", "CHARSET", "CHECKSUM", "CONTAINS", "DEFINER", "LIFETIME", "LIKE", "MODIFIES", "NO",
    "ON", "ORDER BY", "PARTITION BY", "PRIMARY KEY", "RANGE", "READS", "RETURNS", "SECURITY",
    "SQL SECURITY", "STORED", "TBLPROPERTIES", "WITH"]

def optionWords : List String := assignedOptions ++ flagOptions ++ phraseOptions

/-- The options that the word DEFAULT may stand before. -/
def defaultableOptions : List String := ["CHARACTER SET", "CHARSET", "COLLATE"]

/-- The words that qualify an option before the columns of a table. -/
def optionQualifiers : List (List (List String)) :=
  [[["NO"]], [["DUAL"]], [["BEFORE"]], [["DEFAULT"]], [["LOCAL"], ["NOT", "LOCAL"]], [["AFTER"]],
    [["MIN"], ["MINIMUM"]], [["MAX"], ["MAXIMUM"]]]

/-- The properties of a sequence that are words and no more. -/
def sequencePhrases : List (List String) :=
  [["SCALE", "EXTEND"], ["SCALE", "NOEXTEND"], ["SHARD", "EXTEND"], ["SHARD", "NOEXTEND"],
    ["NO", "CYCLE"], ["NO", "CACHE"], ["NO", "MAXVALUE"], ["NO", "MINVALUE"], ["SESSION"], ["GLOBAL"],
    ["KEEP"], ["NOKEEP"], ["ORDER"], ["NOORDER"], ["NOCACHE"], ["CYCLE"], ["NOCYCLE"], ["NOMINVALUE"],
    ["NOMAXVALUE"], ["NOSCALE"], ["NOSHARD"]]

/-- The value of an option. -/
def optionValue : Reading String := do
  let _ ← equalsSign
  let _ ← word "AS"
  match ← withFuel (field · false) with
  | some e => return e.bareText
  | none => fail .expressionExpected

/-- A range or a list of rows that a table is parted into. -/
def partitionBound (listed : Bool) : Reading (Option Unit) := do
  let values : Reading (Option Unit) := do
    let _ ← wrapped (commaList (withFuel (expression · 0)))
    return some ()
  let _ ← keyword ["PARTITION"]
  let name ← anyName
  if listed then
    let _ ← keywords ["VALUES", "IN"]
    values
  else if ← keywords ["VALUES", "LESS", "THAN"] then values
  else return name.map fun _ => ()

/-- The ranges or lists of rows that a table is parted into, or nothing for other ways to part it. -/
def partitions : Reading (Option TableOption) := do
  match ← keyword ["RANGE", "LIST"] with
  | none => return none
  | some kind =>
    let _ ← wrapped (commaList (withFuel (expression · 0)))
    match ← get with
    | p :: t :: _ =>
      if p.isSymbol "(" && t.keyText == "PARTITION" then
        let _ ← wrapped (commaList (partitionBound (kind == "LIST")))
    | _ => pure ()
    return some .other

/-- The account that an object belongs to. -/
def definer : Reading (Option TableOption) := do
  let _ ← equalsSign
  let user ← anyName
  let _ ← symbol "@"
  let host ← anyName
  let anywhere ← if host.isNone then symbol "%" else pure false
  return if user.isSome && (host.isSome || anywhere) then some .other else none

/-- The type of what a function gives. -/
def returnedType : Reading Unit := do
  unless ← keywords ["NULL", "ON", "NULL", "INPUT"] do
    let _ ← withFuel dataType

/-- The bounds of a range, each a word or a literal. -/
def rangeBounds : Reading Unit := wrapped do
  let bound : Reading Unit := do
    let _ ← withFuel (field · false)
  if (← keyword ["MIN"]).isSome then
    bound
    let _ ← keyword ["MAX"]
  bound

/-- A property of a sequence, or nothing and no token taken. A comma counts as one. -/
def sequenceProperty : Reading (Option TableOption) := do
  let step : Reading (Option Unit) := do
    if (← keyword ["INCREMENT"]).isSome then
      let _ ← keyword ["BY"]
      let _ ← equalsSign
      let _ ← withFuel (expression · sum)
      return some ()
    else if (← keyword ["MINVALUE", "MAXVALUE"]).isSome then
      let _ ← withFuel (expression · sum)
      return some ()
    else if (← keyword ["START WITH", "START"]).isSome then
      let _ ← equalsSign
      let _ ← withFuel (expression · sum)
      return some ()
    else if (← keyword ["CACHE"]).isSome then
      let _ ← takeIf (·.kind == .number)
      return some ()
    else if ← keywords ["OWNED", "BY"] then
      let _ ← withFuel column
      return some ()
    else return (← onePhrase sequencePhrases).map fun _ => ()
  if ← symbol "," then
    let _ ← step
    return some .other
  else return (← step).map fun _ => .other

/-- Any name with a value, or nothing and no token taken. -/
def namedOption : Reading (Option TableOption) := do
  let start ← get
  let _ ← withFuel column
  if ← equalsSign then
    match ← withFuel (expression · arithmetic) with
    | some _ => return some .other
    | none =>
      let _ ← anyName
      return some .other
  else
    set start
    return none

/-- An option behind its word. `nested` reads the options in a list of options. -/
def optionBehind (nested : Reading (List TableOption)) (word : String) : Reading (List TableOption) := do
  let other (found : Bool) : List TableOption := if found then [.other] else []
  match word with
  | "ENGINE" => return [.engine (← optionValue)]
  | "COLLATE" => return [.collation (← optionValue)]
  | "COMMENT" => return [.comment (← optionValue)]
  | "CHARSET" | "CHARACTER SET" =>
    let _ ← equalsSign
    match ← stringOrWord with
    | some s => return [.characterSet s]
    | none => fail .nameExpected
  | "CHECKSUM" =>
    let _ ← equalsSign
    let _ ← keyword ["ON", "OFF"]
    let _ ← Reading.word "DEFAULT"
    return [.other]
  | "CONTAINS" => return other (← keywords ["SQL"])
  | "DEFINER" => return (← definer).toList
  | "LIKE" =>
    likeTable
    return [.other]
  | "MODIFIES" | "READS" => return other (← keywords ["SQL", "DATA"])
  | "NO" => return other ((← keywords ["PRIMARY", "INDEX"]) || (← keywords ["SQL"]))
  | "ON" =>
    let kept ← onePhrase [["COMMIT", "PRESERVE", "ROWS"], ["COMMIT", "DELETE", "ROWS"]]
    if kept.isNone then
      let _ ← anyName
    return [.other]
  | "ORDER BY" =>
    let _ ← commaList keyPart
    return [.other]
  | "PARTITION BY" => return (← partitions).toList
  | "PRIMARY KEY" =>
    unless ← atSymbol "(" do fail .openExpected
    let _ ← primaryKey
    return [.other]
  | "RANGE" | "LIFETIME" =>
    rangeBounds
    return [.other]
  | "RETURNS" =>
    returnedType
    return [.other]
  | "SECURITY" => return other (← keyword ["NONE", "DEFINER", "INVOKER"]).isSome
  | "SQL SECURITY" =>
    let _ ← equalsSign
    return other (← keyword ["DEFINER", "INVOKER"]).isSome
  | "STORED" =>
    let _ ← Reading.word "AS"
    match ← stringOrWord with
    | some _ => return [.other]
    | none => fail .expressionExpected
  | "TBLPROPERTIES" => nested
  | "WITH" =>
    if ← atSymbol "(" then nested
    else
      return other (← onePhrase [["DATA"], ["NO", "DATA"]]).isSome
  | w =>
    if w ∈ assignedOptions then
      let _ ← optionValue
    return [.other]

/-- Whether an option starts here, behind DEFAULT or not; its word is taken. -/
def optionWord : Reading (Option String) := do
  match ← keyword optionWords with
  | some w => return some w
  | none =>
    if ← word "DEFAULT" then
      match ← keyword optionWords with
      | some w => if w ∈ defaultableOptions then return some w else fail .optionWithoutDefault
      | none => return none
    else return none

/-- An option of a table, or nothing. The words of one that has no value stay taken, but for WITH, which may
start a query. -/
def tableOption (fuel : Nat) : Reading (Option (List TableOption)) :=
  match fuel with
  | 0 => return none
  | fuel + 1 => do
    let start ← get
    match ← optionWord with
    | some w =>
      let nested := wrapped do
        return (← commaList (tableOption fuel)).flatten
      match ← optionBehind nested w with
      | [] =>
        if w == "WITH" && !(start.drop 1).head?.any (·.isSymbol "(") then set start
        return none
      | options => return some options
    | none =>
      match ← sequenceProperty with
      | some o => return some [o]
      | none => return (← namedOption).map ([·])

/-- The options of a table one after another. -/
def tableOptions : Reading (List TableOption) := do
  return (← many (withFuel tableOption)).flatten

/-- The first of some phrases in each group, in the order of the groups. -/
def qualifiers : List (List (List String)) → Reading (List String)
  | [] => return []
  | group :: rest => do
    let found ← onePhrase group
    return found.toList ++ (← qualifiers rest)

/-- An option before the columns of a table. It starts with a word of its own, which others may qualify. -/
def leadingOption : Reading (Option (List TableOption)) := do
  let _ ← symbol ","
  let qualified ← qualifiers optionQualifiers
  match ← takeIf fun t => t.keyText ∈ optionWords with
  | none => return none
  | some t =>
    if qualified.isEmpty || (qualified == ["DEFAULT"] && t.keyText ∈ defaultableOptions) then
      let nested := wrapped do
        return (← commaList (withFuel tableOption)).flatten
      return some (← optionBehind nested t.keyText)
    else fail (.unqualifiedOption t.text)

/-- The options before the columns of a table. -/
def leadingOptions : Reading (List TableOption) := do
  let _ ← symbol ","
  return (← many leadingOption).flatten

end GormModels.Sql.Mysql
