import GormModels.Sql.Dialect
import GormModels.Sql.Mysql.Statement
import GormModels.Sql.Mysql.Token.Place

/-!
MySQL as a dialect. The statements are read one after another off the tokens between semicolons, and of each one
only the nodes that a declaration is made from are given on.
-/

namespace GormModels.Sql.Mysql

/-! ### Nodes -/

def Name.node (n : Name) : Node :=
  { kind := .identifier, name := n.text, sql := n.render, identifier := some n.text }

/-- A word that is written without quotes wherever it stands. -/
def variableNode (name written : String) : Node := { kind := .variable, name, sql := written }

def stringNode (text : String) : Node := { kind := .literal, name := text, sql := quoteString text }

namespace Expr

def nodeKind (e : Expr) : NodeKind :=
  match e.plain with
  | string _ | number _ => .literal
  | null => .null
  | _ => .other

/-- The name that is nearest to the root of an expression, the leftmost of several. -/
def identifier? (e : Expr) : Option String :=
  ((namesAt 0 e).foldl (fun (best : Option (Nat × String)) n => match best with
    | some b => if n.1 < b.1 then some n else best
    | none => some n) none).map (·.2)

def node (e : Expr) : Node :=
  { kind := e.nodeKind, name := e.ownText, sql := e.render, identifier := e.identifier? }

end Expr

/-- An interval that is told in a unit has no name. The types that have no unsigned form of their own are marked. -/
def DataType.node (t : DataType) : Sql.DataType :=
  let marked := t.unsigned && t.head ∈ [.known "DECIMAL", .known "DOUBLE", .known "FLOAT"]
  { head := match t.unit, t.head with
      | some _, _ => .nameless
      | none, .custom word => .userDefined word
      | none, .known name => .known (if t.unsigned && !marked then "U" ++ name else name)
    sql := { t with unsigned := t.unsigned && !marked }.render
    unsigned := marked
    params := t.params.map Expr.render }

namespace Constraint

/-- What a constraint says of the column that it stands at. -/
def node : Constraint → Sql.Constraint
  | notNull => .notNull
  | null => .null
  | default value => .default value.node
  | autoIncrement => .autoIncrement
  | comment text => .comment (stringNode text)
  | characterSet name written => .characterSet (variableNode name written)
  | collation name written => .collation (variableNode name written)
  | key _ => .primaryKey
  | unique _ _ => .unique
  | primaryKey _ _ | index _ _ _ | foreignKey _ _ | other _ => .other

/-- What a constraint says of the table that it stands in. -/
def tableNode : Constraint → TableConstraint
  | primaryKey columns _ => .primaryKey (columns.map Name.node)
  | unique name columns => .unique (name.map Name.node) ((columns.getD []).map Expr.node)
  | index kind name columns => .index kind (name.map Name.node) (columns.map Expr.node)
  | foreignKey columns target =>
    .foreignKey (columns.map Name.node) (target.map fun r =>
      { table := some { kind := .table, name := (r.table.getLast?.map Name.text).getD "" }
        columns := r.columns.map Expr.node })
  | _ => .other

end Constraint

def ColumnDefinition.node (c : ColumnDefinition) : Sql.ColumnDefinition :=
  { name := c.name.columnName
    type := c.type.map DataType.node
    constraints := c.constraints.map (·.constraint.node)
    sql := c.render }

def TableItem.node : TableItem → Sql.TableItem
  | column c => .column c.node
  | constraint label c => .constraints (label.map fun name => { kind := .identifier, name }) [c.tableNode]

def TableOption.node : TableOption → Sql.TableOption
  | engine name => .engine (variableNode name name)
  | characterSet name => .characterSet (variableNode name name)
  | collation name => .collation (variableNode name name)
  | comment text => .comment (stringNode text)
  | other => .other

def TableDefinition.node (d : TableDefinition) : Sql.TableDefinition :=
  { name := d.name, items := d.items.map TableItem.node, options := d.options.map TableOption.node }

/-- A command keeps its first token as its verb and all that stands behind it as its body. -/
def Statement.node (tokens : List Token) : Statement → Sql.Statement
  | table definition => .create "TABLE" definition.node
  | other => .other
  | command =>
    match tokens with
    | [] => .other
    | first :: rest =>
      let body := Token.read rest
      let text := String.ofList (first.source ++ ' ' :: Text.trim body)
      let comments := (first.comments.filter (· != "")).map renderComment
      .command (.ofList first.source) (.ofList body) (" ".intercalate (comments ++ [text]))

/-! ### Statements -/

/-- A statement with the tokens it was read from. -/
structure ReadStatement where
  tokens : List Token
  statement : Statement

/-- Reads statements until one does not follow the grammar; that one comes with its fault. -/
def readStatements : List (List PlacedToken) →
    List ReadStatement × Option (List PlacedToken × Fault)
  | [] => ([], none)
  | placed :: more =>
    let tokens := placed.map (·.token)
    match statement tokens with
    | .error fault => ([], some (placed, fault))
    | .ok (s, _) =>
      let (read, fault) := readStatements more
      (⟨tokens, s⟩ :: read, fault)

/-! ### Failures -/

/-- The text around the place where the lexer stopped. -/
def stopped (text : List Char) (place : Nat) : String :=
  "Error tokenizing '" ++
    .ofList ((text.take (min (place + 50) (text.length - 1))).drop (place - 50)) ++ "'"

/-- The token where a fault lies: the first one left, or the last one where none is left. -/
def Fault.token? (f : Fault) (tokens : List PlacedToken) : Option PlacedToken :=
  tokens[tokens.length - max f.left 1]?

/-- A description with a token and the hundred characters on both sides of it. -/
def detailAt (text : List Char) (description : String) (t : PlacedToken) : ErrorDetail :=
  let behind := t.start + t.token.source.length
  { description
    line := some t.position.line
    column := some t.position.column
    before := .ofList ((text.take t.start).drop (t.start - 100))
    found := .ofList t.token.source
    behind := .ofList ((text.drop behind).take 100) }

/-- What is told of a fault in the text that it was met in. -/
def Fault.failure (text : List Char) (tokens : List PlacedToken) (f : Fault) : ParseFailure :=
  let description := f.problem.message
  match f.problem with
  | .unreadableType name place => .token (stopped name.toList place)
  | .optionWithoutDefault => .other
  | .intervalExpected _ => .grammar description []
  | _ =>
    .grammar description [(f.token? tokens).elim
      { description, line := some Position.start.line, column := some Position.start.column }
      (detailAt text description)]

/-! ### The dialect -/

def placedTokens (text : String) : Except String (List PlacedToken) :=
  match tokenize text.toList with
  | .error place => .error (stopped text.toList place)
  | .ok tokens => .ok (PlacedToken.place tokens)

def statements (text : String) : Except ParseFailure (List Sql.Statement) := do
  let tokens ← (placedTokens text).mapError .token
  match readStatements (statementsOf tokens) with
  | (_, some (placed, fault)) => .error (fault.failure text.toList placed)
  | (read, none) => .ok (read.map fun s => s.statement.node s.tokens)

/-- The commands of more than one token that were read before any error, each by the start of its source. -/
def commandTexts (text : String) : List String :=
  match placedTokens text with
  | .error _ => []
  | .ok tokens =>
    (readStatements (statementsOf tokens)).1.filterMap fun s =>
      match s.statement, s.tokens with
      | .command, _ :: _ :: _ => some (.ofList ((Token.span s.tokens).take 100))
      | _, _ => none

instance : Dialect where
  tokenize := placedTokens
  parse := statements
  warnings := commandTexts

end GormModels.Sql.Mysql
