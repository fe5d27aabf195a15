import GormModels.Report
import GormModels.Sql.Dialect
import GormModels.Text.Blank

/-!
Why a text is refused as SQL, each cause with the part of the text that shows it.
-/

namespace GormModels.Sql

/-- A piece of a text on one line and no longer than eighty characters. -/
def excerpt (text : List Char) : String :=
  let line := Text.collapse text
  .ofList (if line.length ≤ 80 then line else line.take 77 ++ ['.', '.', '.'])

inductive SqlError
  | untokenizable (text : String)
  /-- Of the errors that a parser tells the first one counts. -/
  | malformed (text : String) (details : List ErrorDetail)
  | emptyItem (previous found : String) (position : Position)
  | unsupportedTable (near : String)
  | untypedColumn (column table near : String)
  /-- A column whose type has no name; no report covers it. -/
  | namelessType (column table : String)
  /-- An error that a parser does not promise; no report covers it. -/
  | unforeseen
  deriving DecidableEq, Repr

namespace SqlError

def ofFailure : ParseFailure → SqlError
  | .token text => untokenizable text
  | .grammar text details => malformed text details
  | .other => unforeseen

def placed (position : Position) (what : String) : String :=
  "SQL syntax error at line " ++ toString position.line ++ ", column " ++ toString position.column ++
    ": " ++ what

/-- What is told of an error in a text that does not follow the grammar; an error without a description is told by
the text of the whole failure. -/
def malformedMessage (text : String) (d : ErrorDetail) : String :=
  let description := if d.description == "" then text else d.description
  match d.line, d.column with
  | some line, some column => placed ⟨line, column⟩ description
  | _, _ => "SQL syntax error: " ++ description

def message : SqlError → String
  | untokenizable text => "Could not tokenize SQL: " ++ text
  | malformed text details => malformedMessage text (details.headD {})
  | emptyItem previous found position =>
    placed position ("unexpected '" ++ found ++ "' after '" ++ previous ++ "'")
  | unsupportedTable _ => "Unsupported CREATE TABLE syntax"
  | untypedColumn column table _ =>
    "Column '" ++ column ++ "' in table '" ++ table ++ "' has no data type"
  | namelessType column table =>
    "The data type of column '" ++ column ++ "' in table '" ++ table ++ "' has no name"
  | unforeseen => "The parser failed"

def report? (e : SqlError) : Option Report :=
  match e with
  | untokenizable _ => some (.sql e.message)
  | malformed _ details =>
    let d := details.headD {}
    some (.sql e.message (d.line.map Int.ofNat) (d.column.map Int.ofNat)
      (some (excerpt (d.before ++ d.found ++ d.behind).toList)))
  | emptyItem previous found p =>
    some (.sql e.message (some p.line) (some p.column) (some (previous ++ found)))
  | unsupportedTable near => some (.sql e.message none none (some near))
  | untypedColumn _ _ near => some (.sql e.message none none (some near))
  | namelessType _ _ | unforeseen => none

end SqlError

end GormModels.Sql
