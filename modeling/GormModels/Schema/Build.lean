import GormModels.Options
import GormModels.Schema
import GormModels.Schema.Error
import GormModels.Text.Blank
import GormModels.Text.Digit

/-!
Building schemas from declarations. Every key is checked against the declared columns, and columns that
contradict themselves are refused.
-/

namespace GormModels

/-- The types of which an unsigned form exists. -/
def unsignedCapable : List String :=
  ["TINYINT", "SMALLINT", "MEDIUMINT", "INT", "BIGINT", "DECIMAL", "FLOAT", "DOUBLE"]

/-- The types whose first parameter is a length. -/
def lengthTypes : List String :=
  ["CHAR", "VARCHAR", "NCHAR", "NVARCHAR", "BINARY", "VARBINARY", "BIT", "TINYINT", "SMALLINT",
    "MEDIUMINT", "INT", "BIGINT", "YEAR"]

/-- The types whose parameters are a precision and a scale. -/
def precisionTypes : List String := ["DECIMAL", "FLOAT", "DOUBLE"]

/-- A type with rules of its own: an unsigned counter that is never null and unique. -/
def serialType : String := "SERIAL"

/-- A type name without the U that marks unsigned types, and whether it was there. -/
def stripUnsigned (typeName : String) : String × Bool :=
  match typeName.toList with
  | 'U' :: rest =>
    if String.ofList rest ∈ unsignedCapable then (.ofList rest, true) else (typeName, false)
  | _ => (typeName, false)

/-- A type parameter that looks like a number but is none. -/
structure BadNumeral where
  text : String
  deriving DecidableEq, Repr

/-- The longest numeral that is read. -/
def maxNumeralLength : Nat := 4300

/-- A parameter as a number, if it consists of digits. Digits that no positional notation uses, separator
controls around the digits and overlong numerals cannot be read. -/
def readCount (param : String) : Except BadNumeral (Option Int) :=
  let s := param.toList
  let digits := Text.trim s
  if digits.isEmpty || !digits.all Text.isDigit then .ok none
  else
    let unreadable := s.any (fun c => 28 ≤ c.toNat && c.toNat ≤ 31) || digits.length > maxNumeralLength
    match Text.decimalNumber? digits with
    | some n => if unreadable then .error ⟨param⟩ else .ok (some n)
    | none => .error ⟨param⟩

def countAt (params : List String) (i : Nat) : Except BadNumeral (Option Int) :=
  match params[i]? with
  | some param => readCount param
  | none => .ok none

/-- The first text that is there and not empty. -/
def firstGiven (candidates : List (Option String)) : Option String :=
  candidates.findSome? fun c => c.filter (· != "")

inductive BuildError
  | invalid (error : SchemaError)
  | numeral (error : BadNumeral)
  deriving DecidableEq, Repr

/-- What a table gives all its columns. -/
structure TableContext where
  table : String
  primaryKey : List String
  /-- The columns that are alone in some unique key. -/
  singleUnique : List String
  charset : Option String
  collation : Option String

/-- The contradiction in a column's declaration, if there is one. -/
def ColumnDeclaration.contradiction? (c : ColumnDeclaration) (isPrimaryKey : Bool) :
    Option Contradiction :=
  if c.notNull && c.defaultIsNull then some .requiredDefaultsToNull
  else if c.notNull && c.explicitNull then some .nullAndRequired
  else if c.explicitNull && isPrimaryKey then some .nullPrimaryKey
  else if c.explicitNull && c.typeName == serialType then some .nullSerial
  else none

def ColumnDeclaration.build (options : Options) (context : TableContext) (c : ColumnDeclaration) :
    Except BuildError Column :=
  let isPrimaryKey := context.primaryKey.contains c.name
  let isSerial := c.typeName == serialType
  match c.contradiction? isPrimaryKey with
  | some what => .error (.invalid (.contradiction context.table c.name what))
  | none => do
    let (typeName, unsigned) := stripUnsigned c.typeName
    let count (applies : Bool) (i : Nat) : Except BuildError (Option Int) :=
      if applies then (countAt c.typeParams i).mapError .numeral else .ok none
    let precise := precisionTypes.contains typeName
    let precision ← count precise 0
    let scale ← count precise 1
    let length ← count (!precise && lengthTypes.contains typeName) 0
    return {
      name := c.name
      typeName
      typeText := c.typeText
      nullable := !c.notNull && !isPrimaryKey && !isSerial
      unsigned
      length
      precision
      scale
      default := c.default
      autoIncrement := c.autoIncrement || isSerial
      comment := c.comment
      isPrimaryKey
      isUnique := context.singleUnique.contains c.name || (isSerial && !isPrimaryKey)
      charset := firstGiven [options.charset, c.charset, context.charset]
      collation := firstGiven [options.collation, c.collation, context.collation] }

/-- The first name that occurs a second time. -/
def firstRepeated : List String → List String → Option String
  | _, [] => none
  | seen, name :: rest => if seen.contains name then some name else firstRepeated (name :: seen) rest

/-- All keys of a table with their kinds, in the order in which they are checked. -/
def TableDeclaration.keys (t : TableDeclaration) : List (KeyKind × Key) :=
  (.primary, { columns := t.primaryKey }) :: t.uniqueKeys.map (.unique, ·) ++
    t.indexes.map (.plain, ·) ++ t.foreignKeys.map (.foreign, ·)

/-- The first column of a key that the table does not declare. -/
def TableDeclaration.unknownKeyColumn? (t : TableDeclaration) : Option SchemaError :=
  t.keys.findSome? fun (kind, key) =>
    (key.columns.find? fun c => !t.columns.any (·.name == c)).map
      (.unknownKeyColumn t.name kind key.name ·)

/-- What is wrong with a table apart from its single columns. -/
def TableDeclaration.error? (t : TableDeclaration) : Option SchemaError :=
  if t.columns.isEmpty then some (.noColumns t.name)
  else match firstRepeated [] (t.columns.map (·.name)) with
    | some column => some (.repeatedColumn t.name column)
    | none => t.unknownKeyColumn?

def defaultCharset : String := "utf8mb4"

def defaultCollation : String := "utf8mb4_general_ci"

def TableDeclaration.build (options : Options) (t : TableDeclaration) : Except BuildError Table :=
  match t.error? with
  | some e => .error (.invalid e)
  | none => do
    let charset := firstGiven [options.charset, t.charset, some defaultCharset]
    let collation := firstGiven [options.collation, t.collation, some defaultCollation]
    let context : TableContext :=
      { table := t.name
        primaryKey := t.primaryKey
        singleUnique := t.uniqueKeys.filterMap fun key => match key.columns with
          | [column] => some column
          | _ => none
        charset
        collation }
    let columns ← t.columns.mapM (ColumnDeclaration.build options context)
    return {
      name := t.name
      columns
      comment := t.comment
      engine := t.engine
      charset
      collation
      primaryKey := t.primaryKey
      uniqueKeys := t.uniqueKeys
      indexes := t.indexes
      foreignKeys := t.foreignKeys }

def buildTables (options : Options) (tables : List TableDeclaration) : Except BuildError (List Table) :=
  tables.mapM (TableDeclaration.build options)

end GormModels
