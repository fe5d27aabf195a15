import GormModels.Database.Fetch
import GormModels.Files

/-!
Where the SQL text comes from: the text itself, a file, or a live table. Exactly one of them is used.
-/

namespace GormModels

/-- What a user gives to find the SQL text; an empty text is as good as none. -/
structure InputSources where
  sql : Option String := none
  file : Option String := none
  database : Option String := none
  table : Option String := none
  deriving DecidableEq, Repr

namespace InputSources

def given (s : Option String) : Option String := s.filter (· != "")

/-- How many of the sources are given; a table is none by itself. -/
def count (s : InputSources) : Nat :=
  ([s.sql, s.file, s.database].filter fun source => (given source).isSome).length

end InputSources

inductive InputError
  | noSource
  | severalSources
  | tableAlone
  | noTable
  | unreadable (path : String) (fault : Files.TextFault)
  | fetch (error : Database.FetchError)
  deriving DecidableEq, Repr

def InputError.report? : InputError → Option Report
  | noSource => some (.configuration "no SQL input (--sql | -f | --db-dsn)" (some "input"))
  | severalSources =>
    some (.configuration "only one SQL input may be given (--sql | -f | --db-dsn)" (some "input"))
  | tableAlone => some (.configuration "--db-table requires --db-dsn" (some "db-table"))
  | noTable => some (.configuration "miss mysql table (--db-table)" (some "db-table"))
  | unreadable _ (.refused _ .nullCharacter) => none
  | unreadable path fault =>
    some (.inputSource ("read " ++ path ++ " failed: " ++ fault.message) (some path))
  | fetch e => e.report?

/-- An SQL text or why there is none, with the queries that were sent. -/
structure Resolved where
  queries : List String
  result : Except InputError String

namespace InputSources

/-- The SQL text of the source that is given, in a process that may be connected already. -/
def resolve (files : Files.Tree) (database : Database.Answer) (s : InputSources)
    (process : Database.Configuration := {}) : Resolved :=
  if s.count == 0 then ⟨[], .error .noSource⟩
  else if s.count > 1 then ⟨[], .error .severalSources⟩
  else match given s.sql, given s.file, given s.database, given s.table with
    | _, _, none, some _ => ⟨[], .error .tableAlone⟩
    | some sql, _, _, _ => ⟨[], .ok sql⟩
    | none, some path, _, _ =>
      ⟨[], (files.readText (.ofText path)).mapError (.unreadable path)⟩
    | none, none, some source, some table =>
      let fetched := Database.fetchCreate database source table process
      ⟨fetched.queries, fetched.result.mapError .fetch⟩
    | none, none, _, _ => ⟨[], .error .noTable⟩

end InputSources

end GormModels
