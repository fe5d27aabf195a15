import GormModels.Options
import GormModels.Schema

/-!
Struct tags: what a field tells about its column and its JSON member.
-/

namespace GormModels.Go

/-- A character as it stands in the quoted value of a tag, which is itself between backticks. -/
def escapeTagChar (c : Char) : List Char :=
  match c with
  | '\\' => ['\\', '\\']
  | '"' => ['\\', '"']
  | '\x60' => ['\\', 'x', '6', '0']
  | '\n' => ['\\', 'n']
  | c => [c]

def escapeTag (value : String) : String := .ofList (value.toList.flatMap escapeTagChar)

/-- The settings of a column for the object mapper, in a fixed order. -/
def columnSettings (options : Options) (c : Column) : List String :=
  ["column:" ++ c.name] ++
    (if options.withType then ["type:" ++ c.typeText] else []) ++
    (if c.isPrimaryKey then ["primary_key"] else []) ++
    (if c.isUnique && !c.isPrimaryKey then ["unique"] else []) ++
    (if c.autoIncrement then ["AUTO_INCREMENT"] else []) ++
    (if c.nullable then [] else ["NOT NULL"]) ++
    (match c.default with
      | some d => ["default:" ++ (if d == "" then "''" else d)]
      | none => [])

def gormTag (options : Options) (c : Column) : String :=
  ";".intercalate (columnSettings options c)

/-- One key of a tag with its quoted value. -/
def tagPart (key value : String) : String := key ++ ":\"" ++ escapeTag value ++ "\""

def fieldTag (options : Options) (c : Column) (jsonName : Option String) : String :=
  tagPart "gorm" (gormTag options c) ++
    (match jsonName with
      | some name => " " ++ tagPart "json" name
      | none => "")

end GormModels.Go
