import GormModels.Declaration
import GormModels.Sql.Error
import GormModels.Text.Digit

/-!
Scripts: statements parted by semicolons. The whole text is checked for empty list items first, then
every statement is read, and only then are the tables taken from them in order.
-/

namespace GormModels.Sql

/-! ### Empty list items -/

/-- Whether a statement starts with CREATE and has TABLE as its second or third token. -/
def startsTable (statement : List PlacedToken) : Bool :=
  match statement with
  | first :: more =>
    first.token.isWord "CREATE" && (more.take 2).any (·.token.isWord "TABLE")
  | [] => false

/-- Whether nothing stands between two neighbours where an item of a list should. -/
def missesItem (a b : PlacedToken) : Bool :=
  (a.token.isSymbol "," && (b.token.isSymbol "," || b.token.isSymbol ")")) ||
    (a.token.isSymbol "(" && b.token.isSymbol ",")

/-- The first two neighbours with a missing item between them. -/
def missingItem? : List PlacedToken → Option (PlacedToken × PlacedToken)
  | a :: b :: rest => if missesItem a b then some (a, b) else missingItem? (b :: rest)
  | _ => none

def emptyItem? (tokens : List PlacedToken) : Option SqlError :=
  ((statementsOf tokens).filter startsTable).findSome? fun statement =>
    (missingItem? statement).map fun (a, b) => .emptyItem a.token.text b.token.text b.position

/-! ### Taking the tables -/

/-- The constraints of a column put together: of a text the last one counts, of a flag any one. -/
def applyConstraint (c : ColumnDeclaration) : Constraint → ColumnDeclaration
  | .notNull => { c with notNull := true }
  | .null => { c with explicitNull := true }
  | .default value =>
    if value.isNull then { c with defaultIsNull := true } else { c with default := some value.valueText }
  | .autoIncrement => { c with autoIncrement := true }
  | .comment text => { c with comment := some text.text }
  | .characterSet name => { c with charset := some name.text }
  | .collation name => { c with collation := some name.text }
  | .primaryKey | .unique | .other => c

def ColumnDefinition.declare (table : String) (c : ColumnDefinition) :
    Except SqlError ColumnDeclaration :=
  match c.type with
  | none => .error (.untypedColumn c.name table (excerpt c.sql.toList))
  | some type =>
    match type.name? with
    | none => .error (.namelessType c.name table)
    | some typeName =>
      .ok (c.constraints.foldl applyConstraint
        { name := c.name, typeName, typeText := type.text, typeParams := type.params })

/-- Whether a column is its table's primary key, alone or with others that say so. -/
def ColumnDefinition.isPrimaryKey (c : ColumnDefinition) : Bool := c.constraints.any (· matches .primaryKey)

def ColumnDefinition.isUnique (c : ColumnDefinition) : Bool := c.constraints.any (· matches .unique)

/-- A key goes by its own name, or by the label of its constraint where its own is missing or empty. -/
def keyLabel (name : Option Node) (label : Option String) : Option String :=
  (name.map Node.text).filter (· != "") <|> label

/-- Adds a constraint behind a label to the table that it stands in. -/
def applyTableConstraint (label : Option String) (t : TableDeclaration) : TableConstraint → TableDeclaration
  | .primaryKey columns => { t with primaryKey := t.primaryKey ++ columns.map Node.identifierName }
  | .unique name columns =>
    { t with uniqueKeys := t.uniqueKeys ++
        [{ name := keyLabel name label, columns := columns.map Node.identifierName }] }
  | .index kind name columns =>
    let key : Key := { name := keyLabel name label, columns := columns.map Node.identifierName }
    if Text.upperText kind == "UNIQUE" then { t with uniqueKeys := t.uniqueKeys ++ [key] }
    else { t with indexes := t.indexes ++ [key] }
  | .foreignKey columns reference =>
    { t with foreignKeys := t.foreignKeys ++
        [{ name := label
           columns := columns.map Node.identifierName
           referencedTable := reference.bind fun r => r.table.map Node.text
           referencedColumns := reference.elim [] fun r => r.columns.map Node.identifierName }] }
  | .other => t

/-- Adds an item to the table that it stands in. -/
def declareItem (t : TableDeclaration) : TableItem → Except SqlError TableDeclaration
  | .column c => do
    let column ← c.declare t.name
    return { t with
      columns := t.columns ++ [column]
      primaryKey := t.primaryKey ++ (if c.isPrimaryKey then [column.name] else [])
      uniqueKeys := t.uniqueKeys ++ (if c.isUnique then [{ columns := [column.name] }] else []) }
  | .constraints label constraints =>
    return constraints.foldl (applyTableConstraint (label.map Node.text)) t

/-- The last option of a kind counts. -/
def applyOption (t : TableDeclaration) : TableOption → TableDeclaration
  | .engine value => { t with engine := some value.text }
  | .characterSet value => { t with charset := some value.text }
  | .collation value => { t with collation := some value.text }
  | .comment value => { t with comment := some value.text }
  | .other => t

def TableDefinition.declare (d : TableDefinition) : Except SqlError TableDeclaration := do
  let t ← d.items.foldlM declareItem { name := d.name }
  return d.options.foldl applyOption t

/-- The characters behind a word and blanks, which no letter or digit may follow. -/
def afterWord? (word : String) (s : List Char) : Option (List Char) :=
  if Text.upper (s.take word.length) == word.toList then
    let rest := s.drop word.length
    if rest.head?.any Text.isWordChar then none else some rest
  else none

/-- Whether the source of a command, less its verb, starts with TABLE or TEMPORARY TABLE. -/
def namesTable (s : List Char) : Bool :=
  let s := Text.trimLeft s
  let s := match afterWord? "TEMPORARY" s with
    | some rest => if rest.head?.any Text.isBlank then Text.trimLeft rest else s
    | none => s
  (afterWord? "TABLE" s).isSome

/-- The table that a statement declares. A command that would create a table is an error, so that no
table is lost. -/
def Statement.declare : Statement → Except SqlError (Option TableDeclaration)
  | .create kind definition =>
    if Text.upperText kind == "TABLE" then some <$> definition.declare else .ok none
  | .command verb body sql =>
    if Text.upperText verb == "CREATE" && namesTable body.toList then
      .error (.unsupportedTable (excerpt sql.toList))
    else .ok none
  | .other => .ok none

section

variable [Dialect]

/-- Whether a text has tokens, and no table in it misses a list item. -/
def checkItems (text : String) : Except SqlError Unit :=
  match Dialect.tokenize text with
  | .error told => .error (.untokenizable told)
  | .ok tokens =>
    match emptyItem? tokens with
    | some e => .error e
    | none => .ok ()

/-- The statements of a text that was checked before. -/
def statementsIn (text : String) : Except SqlError (List Statement) := do
  checkItems text
  (Dialect.parse text).mapError .ofFailure

/-- The tables that a text declares, in their order. -/
def parseTables (text : String) : Except SqlError (List TableDeclaration) := do
  let statements ← statementsIn text
  return (← statements.mapM Statement.declare).filterMap id

/-- The statements of a text that are warned of, which takes a text that is parsed. -/
def commandsIn (text : String) : List String :=
  match checkItems text with
  | .error _ => []
  | .ok () => Dialect.warnings text

end

end GormModels.Sql
