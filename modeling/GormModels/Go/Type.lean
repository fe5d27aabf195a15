import GormModels.Options
import GormModels.Report
import GormModels.Schema

/-!
Go types for SQL types. Every SQL type has a plain Go type; nullable columns use a wrapper, a pointer, or
the plain type where its zero value already means null.
-/

namespace GormModels.Go

structure GoType where
  base : String
  /-- The type of `database/sql` that also holds null. -/
  wrapped : Option String := none
  /-- How nulls are kept when the options do not say. -/
  nullStyle : NullStyle := .wrapped
  /-- The plain type has a value for null. -/
  nilable : Bool := false
  deriving DecidableEq, Repr

/-- A Go type with the packages it needs. -/
structure ResolvedType where
  text : String
  imports : List String := []
  deriving DecidableEq, Repr

def sqlPackage : String := "database/sql"

def timePackage : String := "time"

namespace GoType

def plainImports (t : GoType) : List String :=
  if "time.".toList.isPrefixOf (t.base.toList.dropWhile (· == '*')) then [timePackage] else []

def wrapperImports (t : GoType) : List String :=
  if t.wrapped.any (· != "") then [sqlPackage] else []

def ofString : GoType := { base := "string", wrapped := some "sql.NullString" }

def ofTime : GoType := { base := "time.Time", wrapped := some "sql.NullTime" }

def ofBytes : GoType := { base := "[]byte", nilable := true }

def ofFloat64 : GoType := { base := "float64", wrapped := some "sql.NullFloat64" }

/-- A number with the wrapper of the next wider kind that `database/sql` has. -/
def ofNumber (base wrapped : String) : GoType := { base, wrapped := some wrapped }

/-- No wrapper holds all unsigned numbers of 64 bits. -/
def ofUint64 : GoType := { base := "uint64", nullStyle := .pointer }

end GoType

/-- The Go types of SQL types, signed and unsigned. -/
def typeTable : List ((String × Bool) × GoType) :=
  [(("TINYINT", false), .ofNumber "int8" "sql.NullInt16"),
    (("SMALLINT", false), .ofNumber "int16" "sql.NullInt16"),
    (("MEDIUMINT", false), .ofNumber "int32" "sql.NullInt32"),
    (("INT", false), .ofNumber "int32" "sql.NullInt32"),
    (("BIGINT", false), .ofNumber "int64" "sql.NullInt64"),
    (("TINYINT", true), .ofNumber "uint8" "sql.NullInt16"),
    (("SMALLINT", true), .ofNumber "uint16" "sql.NullInt32"),
    (("MEDIUMINT", true), .ofNumber "uint32" "sql.NullInt64"),
    (("INT", true), .ofNumber "uint32" "sql.NullInt64"),
    (("BIGINT", true), .ofUint64),
    (("SERIAL", false), .ofUint64),
    (("YEAR", false), .ofNumber "int16" "sql.NullInt16"),
    (("BOOLEAN", false), .ofNumber "bool" "sql.NullBool"),
    (("DECIMAL", false), .ofFloat64),
    (("DECIMAL", true), .ofFloat64),
    (("FLOAT", false), .ofNumber "float32" "sql.NullFloat64"),
    (("FLOAT", true), .ofNumber "float32" "sql.NullFloat64"),
    (("DOUBLE", false), .ofFloat64),
    (("DOUBLE", true), .ofFloat64)] ++
  (["CHAR", "VARCHAR", "NCHAR", "NVARCHAR", "TINYTEXT", "TEXT", "MEDIUMTEXT", "LONGTEXT", "ENUM", "SET",
    "JSON", "UUID", "TIME"].map fun t => ((t, false), .ofString)) ++
  (["DATE", "DATETIME", "TIMESTAMP", "TIMESTAMPTZ", "TIMESTAMPLTZ"].map fun t => ((t, false), .ofTime)) ++
  (["BIT", "BINARY", "VARBINARY", "TINYBLOB", "BLOB", "MEDIUMBLOB", "LONGBLOB"].map fun t =>
    ((t, false), .ofBytes))

/-- A column whose SQL type has no Go type. -/
structure UnsupportedType where
  type : String
  table : Option String
  column : String
  deriving DecidableEq, Repr

namespace UnsupportedType

def message (e : UnsupportedType) : String :=
  let place := match e.table with
    | some t => if t == "" then e.column else t ++ "." ++ e.column
    | none => e.column
  "Unsupported SQL type '" ++ e.type ++ "' for column '" ++ place ++ "'"

def report (e : UnsupportedType) : Report :=
  .unsupportedType e.message (some e.type) e.table (some e.column)

end UnsupportedType

/-- The Go type of a column's SQL type. -/
def lookupType (c : Column) (table : Option String := none) : Except UnsupportedType GoType :=
  match typeTable.lookup (c.typeName, c.unsigned) with
  | some t => .ok t
  | none => .error ⟨if c.unsigned then c.typeName ++ " UNSIGNED" else c.typeName, table, c.name⟩

/-- The style that nullable columns of a type have under the options. -/
def styleFor (options : Options) (t : GoType) : NullStyle :=
  match options.nullStyle with
  | .byType => t.nullStyle
  | style => style

/-- The Go type of a column: plain unless it has to hold null. -/
def resolveType (options : Options) (c : Column) (table : Option String := none) :
    Except UnsupportedType ResolvedType := do
  let t ← lookupType c table
  if !c.nullable || options.noNullType || t.nilable then return ⟨t.base, t.plainImports⟩
  else match styleFor options t, t.wrapped with
    | .wrapped, some wrapped =>
      if wrapped == "" then return ⟨"*" ++ t.base, t.plainImports⟩
      else return ⟨wrapped, t.wrapperImports⟩
    | _, _ => return ⟨"*" ++ t.base, t.plainImports⟩

end GormModels.Go
