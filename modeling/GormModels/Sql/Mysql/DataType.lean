import GormModels.Sql.Mysql.Expr

/-!
Column types. A type word that the dialect knows has one canonical name however it is spelled; any other
word is a type of the user's own, kept as written.
-/

namespace GormModels.Sql.Mysql

/-- The words for the types that the dialect knows, with the canonical name of each. -/
def typeWords : List (String × String) :=
  [("ARRAY", "ARRAY"), ("BIGDECIMAL", "BIGDECIMAL"), ("BIGINT", "BIGINT"), ("BIGNUM", "BIGNUM"),
    ("BIGNUMERIC", "BIGDECIMAL"), ("BINARY", "BINARY"), ("BIT", "BIT"), ("BLOB", "BLOB"),
    ("BOOL", "BOOLEAN"), ("BOOLEAN", "BOOLEAN"), ("BPCHAR", "BPCHAR"), ("BYTE", "TINYINT"),
    ("BYTEA", "VARBINARY"), ("CHAR", "CHAR"), ("CHARACTER", "CHAR"), ("CHARACTER VARYING", "VARCHAR"),
    ("CHAR VARYING", "VARCHAR"), ("CLOB", "TEXT"), ("DATE", "DATE"), ("DATETIME", "DATETIME"),
    ("DATERANGE", "DATERANGE"), ("DATEMULTIRANGE", "DATEMULTIRANGE"), ("DEC", "DECIMAL"),
    ("DECFLOAT", "DECFLOAT"), ("DECIMAL", "DECIMAL"), ("DECIMAL128", "DECIMAL128"),
    ("DECIMAL256", "DECIMAL256"), ("DECIMAL32", "DECIMAL32"), ("DECIMAL64", "DECIMAL64"),
    ("DOUBLE", "DOUBLE"), ("DOUBLE PRECISION", "DOUBLE"), ("ENUM", "ENUM"), ("FIXED", "DECIMAL"),
    ("FLOAT", "FLOAT"), ("FLOAT4", "FLOAT"), ("FLOAT8", "DOUBLE"), ("GEOGRAPHY", "GEOGRAPHY"),
    ("GEOMETRY", "GEOMETRY"), ("HUGEINT", "INT128"), ("INET", "INET"), ("INT", "INT"),
    ("INT1", "TINYINT"), ("INT128", "INT128"), ("INT16", "SMALLINT"), ("INT2", "SMALLINT"),
    ("INT256", "INT256"), ("INT3", "MEDIUMINT"), ("INT32", "INT"), ("INT4", "INT"),
    ("INT4MULTIRANGE", "INT4MULTIRANGE"), ("INT4RANGE", "INT4RANGE"), ("INT64", "BIGINT"),
    ("INT8", "BIGINT"), ("INT8MULTIRANGE", "INT8MULTIRANGE"), ("INT8RANGE", "INT8RANGE"),
    ("INTEGER", "INT"), ("INTERVAL", "INTERVAL"), ("JSON", "JSON"), ("JSONB", "JSONB"),
    ("LIST", "LIST"), ("LONG", "BIGINT"), ("LONGBLOB", "LONGBLOB"), ("LONGTEXT", "LONGTEXT"),
    ("LONGVARCHAR", "TEXT"), ("MAP", "MAP"),
    ("MEDIUMBLOB", "MEDIUMBLOB"), ("MEDIUMINT", "MEDIUMINT"), ("MEDIUMTEXT", "MEDIUMTEXT"),
    ("MIDDLEINT", "MEDIUMINT"), ("NCHAR", "NCHAR"), ("NULL", "NULL"), ("NULLABLE", "NULLABLE"),
    ("NUMBER", "DECIMAL"), ("NUMERIC", "DECIMAL"), ("NUMMULTIRANGE", "NUMMULTIRANGE"),
    ("NUMRANGE", "NUMRANGE"), ("NVARCHAR", "NVARCHAR"), ("NVARCHAR2", "NVARCHAR"),
    ("OBJECT", "OBJECT"), ("RANGE", "RANGE"), ("REAL", "FLOAT"), ("SERIAL", "SERIAL"), ("SET", "SET"),
    ("SHORT", "SMALLINT"), ("SIGNED", "BIGINT"), ("SIGNED INTEGER", "BIGINT"),
    ("SMALLINT", "SMALLINT"), ("STR", "TEXT"), ("STRING", "TEXT"), ("STRUCT", "STRUCT"),
    ("TEXT", "TEXT"), ("TIME", "TIME"), ("TIMESTAMP", "TIMESTAMPTZ"), ("TIMESTAMPLTZ", "TIMESTAMPLTZ"),
    ("TIMESTAMPNTZ", "TIMESTAMPNTZ"), ("TIMESTAMPTZ", "TIMESTAMPTZ"),
    ("TIMESTAMP_LTZ", "TIMESTAMPLTZ"), ("TIMESTAMP_NTZ", "TIMESTAMPNTZ"), ("TIMETZ", "TIMETZ"),
    ("TIME_NS", "TIME_NS"), ("TINYBLOB", "TINYBLOB"), ("TINYINT", "TINYINT"), ("TINYTEXT", "TINYTEXT"),
    ("TSMULTIRANGE", "TSMULTIRANGE"), ("TSRANGE", "TSRANGE"), ("TSTZMULTIRANGE", "TSTZMULTIRANGE"),
    ("TSTZRANGE", "TSTZRANGE"), ("UHUGEINT", "UINT128"), ("UINT", "UINT"), ("UINT128", "UINT128"),
    ("UINT256", "UINT256"), ("UNKNOWN", "UNKNOWN"), ("UNSIGNED", "UBIGINT"),
    ("UNSIGNED INTEGER", "UBIGINT"), ("UUID", "UUID"), ("VARBINARY", "VARBINARY"),
    ("VARCHAR", "VARCHAR"), ("VARCHAR2", "VARCHAR"), ("VARIANT", "VARIANT"), ("VECTOR", "VECTOR"),
    ("YEAR", "YEAR")]

/-- The known types that an unsigned form exists of. -/
def unsignedTypes : List String :=
  ["TINYINT", "SMALLINT", "MEDIUMINT", "INT", "BIGINT", "DECIMAL", "FLOAT", "DOUBLE"]

/-- The types whose SQL text differs from their canonical name. -/
def typeSpellings : List (String × String) :=
  [("NCHAR", "CHAR"), ("NVARCHAR", "VARCHAR"), ("TIMESTAMPTZ", "TIMESTAMP"),
    ("TIMESTAMPLTZ", "TIMESTAMP"), ("TIMESTAMPNTZ", "DATETIME"), ("UBIGINT", "BIGINT"), ("UINT", "INT")]

/-- What a type is called: a type of the dialect by its canonical name, or a word of the user's. -/
inductive TypeHead
  | known (name : String)
  | custom (word : String)
  deriving DecidableEq, Repr

/-- The `params` of a nested type are types, and `bounds` are the lengths of an array. An interval may have a
`unit` that it is told in. -/
structure DataType where
  head : TypeHead
  params : List Expr := []
  unsigned : Bool := false
  nested : Bool := false
  bounds : List Expr := []
  unit : Option String := none

/-- The known types that are made of others in brackets. -/
def nestedTypes : List String := ["ARRAY", "LIST", "MAP", "NULLABLE", "OBJECT", "RANGE", "STRUCT"]

/-- The nested types whose parts have names. -/
def structTypes : List String := ["OBJECT", "STRUCT"]

namespace DataType

def renderBounds (bounds : List Expr) : String :=
  if bounds.isEmpty then "" else "[" ++ ", ".intercalate (bounds.map Expr.render) ++ "]"

/-- The SQL text of a type. A VARCHAR without a length is a text. -/
def render (t : DataType) : String :=
  match t.head, t.params with
  | .known "VARCHAR", [] => "TEXT"
  | head, params =>
    let word := match head with
      | .known name => (typeSpellings.lookup name).getD name
      | .custom word => word
    let word := t.unit.elim word fun unit => word ++ " " ++ unit
    let inner := ", ".intercalate (params.map Expr.render)
    let list :=
      if params.isEmpty then ""
      else if t.nested then "<" ++ inner ++ ">" ++ renderBounds t.bounds
      else "(" ++ inner ++ ")"
    let sign := if t.unsigned || head ∈ [.known "UBIGINT", .known "UINT"] then " UNSIGNED" else ""
    word ++ list ++ sign

/-- The words that a value is cast by, for the types that no value is cast to under their own. -/
def castWords : List (String × String) :=
  [("BIGINT", "SIGNED"), ("BOOLEAN", "SIGNED"), ("INT", "SIGNED"), ("MEDIUMINT", "SIGNED"),
    ("SMALLINT", "SIGNED"), ("TINYINT", "SIGNED"), ("UBIGINT", "UNSIGNED"), ("LONGBLOB", "CHAR"),
    ("LONGTEXT", "CHAR"), ("MEDIUMBLOB", "CHAR"), ("MEDIUMTEXT", "CHAR"), ("TEXT", "CHAR"),
    ("TINYBLOB", "CHAR"), ("TINYTEXT", "CHAR"), ("VARCHAR", "CHAR")]

/-- The SQL text of a type that a value is cast to. -/
def renderCast (t : DataType) : String :=
  match t.head, t.unsigned with
  | .known "BIGINT", true => { t with head := .custom "UNSIGNED", unsigned := false }.render
  | .known name, false =>
    match castWords.lookup name with
    | some word => { t with head := .custom word }.render
    | none => t.render
  | _, _ => t.render

end DataType

/-- A value cast to a type; one cast to a point in time is written as a call. -/
def castOf (value : Expr) (type : DataType) : Expr :=
  if type.head ∈ [.known "TIMESTAMPTZ", .known "TIMESTAMPLTZ"] then .builtin "TIMESTAMP" [value]
  else .cast value type.renderCast

/-- A literal behind a type is cast to it; the text of a JSON value stands for itself. -/
def typedLiteral (type : DataType) (literal : Expr) : Expr :=
  if type.head == .known "JSON" then literal else castOf literal type

/-- The types that a time zone may be told of. -/
def zonedTypes : List String := ["TIME", "TIMETZ", "TIMESTAMPTZ", "TIMESTAMPLTZ", "TIMESTAMPNTZ"]

end GormModels.Sql.Mysql
