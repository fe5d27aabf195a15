import GormModels.Database.Configuration

/-!
Fetching the definition of a live table. The database is what it answers to one query.
-/

namespace GormModels.Database

/-- What a database answers to a query: a row or nothing, or the text of its failure. -/
inductive Answer
  | row (cells : Option (List String))
  | failure (text : String)
  deriving DecidableEq, Repr

inductive FetchError
  | tableName (table : String)
  | badSource (error : SourceNameError)
  /-- The process already uses another database. -/
  | conflict
  | failed (source table text : String)
  | missing (source table : String)
  deriving DecidableEq, Repr

namespace FetchError

def report? : FetchError → Option Report
  | tableName table => some (.configuration "Invalid MySQL table name" (some "db-table") (.text table))
  | badSource e => e.report?
  | conflict => some conflictReport
  | failed source table text =>
    some (.databaseConnection ("Could not read table '" ++ table ++ "': " ++ text) (some source)
      (some table))
  | missing source table =>
    some (.databaseConnection ("Table '" ++ table ++ "' was not found") (some source) (some table))

end FetchError

def createQuery (table : String) : String := "SHOW CREATE TABLE \x60" ++ table ++ "\x60"

/-- What came of a fetch, with the queries that were sent and the settings that the process has then. -/
structure Fetched where
  queries : List String
  result : Except FetchError String
  process : Configuration

/-- The statement that creates a table. A table name may hold no backtick, so that it ends where it should
in the query. -/
def fetchCreate (database : Answer) (source table : String) (process : Configuration := {}) : Fetched :=
  if table == "" || table.toList.contains '\x60' then ⟨[], .error (.tableName table), process⟩
  else match process.handle source with
    | (process, .refused e) => ⟨[], .error (.badSource e), process⟩
    | (process, .conflict _) => ⟨[], .error .conflict, process⟩
    | (process, .done) =>
      let result := match database with
        | .failure text => .error (.failed source table text)
        | .row (some (_ :: statement :: _)) => .ok statement
        | .row _ => .error (.missing source table)
      ⟨[createQuery table], result, process⟩

end GormModels.Database
