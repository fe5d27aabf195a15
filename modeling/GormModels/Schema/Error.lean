import GormModels.Report

/-!
Why declared tables make no schema.
-/

namespace GormModels

inductive KeyKind
  | primary
  | unique
  | plain
  | foreign
  deriving DecidableEq, Repr

def KeyKind.label : KeyKind → String
  | primary => "PRIMARY KEY"
  | unique => "UNIQUE KEY"
  | plain => "KEY"
  | foreign => "FOREIGN KEY"

/-- Two statements about the nulls of a column that cannot both hold. -/
inductive Contradiction
  | requiredDefaultsToNull
  | nullAndRequired
  | nullPrimaryKey
  | nullSerial
  deriving DecidableEq, Repr

def Contradiction.message : Contradiction → String
  | requiredDefaultsToNull => "is NOT NULL but defaults to NULL"
  | nullAndRequired => "is declared both NULL and NOT NULL"
  | nullPrimaryKey => "is part of the primary key but declared NULL"
  | nullSerial => "is SERIAL but declared NULL"

inductive SchemaError
  | noTables
  | noColumns (table : String)
  | repeatedColumn (table column : String)
  | unknownKeyColumn (table : String) (kind : KeyKind) (key : Option String) (column : String)
  | contradiction (table column : String) (what : Contradiction)
  deriving DecidableEq, Repr

namespace SchemaError

def message : SchemaError → String
  | noTables => "No CREATE TABLE statement found in the SQL input"
  | noColumns table => "Table '" ++ table ++ "' has no columns"
  | repeatedColumn table column =>
    "Table '" ++ table ++ "' declares column '" ++ column ++ "' more than once"
  | unknownKeyColumn table kind key column =>
    let name := match key with
      | some name => if name == "" then "" else " '" ++ name ++ "'"
      | none => ""
    "Table '" ++ table ++ "': " ++ kind.label ++ name ++ " references unknown column '" ++ column ++ "'"
  | contradiction table column what =>
    "Column '" ++ column ++ "' in table '" ++ table ++ "' " ++ what.message

def report (e : SchemaError) : Report :=
  match e with
  | noTables => .schema e.message
  | noColumns table => .schema e.message (some table)
  | repeatedColumn table column => .schema e.message (some table) (some column)
  | unknownKeyColumn table _ _ column => .schema e.message (some table) (some column)
  | contradiction table column _ => .schema e.message (some table) (some column)

end SchemaError

end GormModels
