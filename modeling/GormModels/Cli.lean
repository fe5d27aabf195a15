import GormModels.Cli.Arguments
import GormModels.Cli.Usage
import GormModels.Compile
import GormModels.Input
import GormModels.Log
import GormModels.Naming.Plural
import GormModels.Options.Coercion
import GormModels.Options.Load
import GormModels.Sql.Mysql
import GormModels.Text.Surrogate
import GormModels.Web.Address
import GormModels.Yaml

/-!
A run of the command: what it makes of its words, the files and the database.
-/

namespace GormModels.Cli

/-- What a run finds around it. -/
structure World [Text.Halves] where
  files : Files.Tree := {}
  database : Database.Answer := .row none
  /-- The database that the process is connected to already. -/
  process : Database.Configuration := {}
  /-- Whether log lines go to a terminal. -/
  terminal : Bool := false
  /-- The characters that there are bytes for in the output. -/
  prints : Char → Bool := fun c => !Text.isLoneHalf c

/-- A failure that no report covers. -/
inductive Breakdown
  | usage (error : UsageError)
  | options (error : LoadError)
  | input (error : InputError)
  | compile (error : CompileError)
  | output (refusal : Files.Refusal)
  /-- A character for which there are no bytes, such as half of a surrogate pair, in the source. -/
  | loneHalf
  deriving Repr

/-- What a run has done. The `status` is its exit status. -/
structure Run where
  status : Except Breakdown Nat := .ok 0
  output : String := ""
  log : String := ""
  files : Files.Tree
  queries : List String := []
  served : List Web.Address := []

namespace Run

def say (text : String) (r : Run) : Run := { r with log := r.log ++ text }

def stop (status : Nat) (r : Run) : Run := { r with status := .ok status }

def breakDown (b : Breakdown) (r : Run) : Run := { r with status := .error b }

end Run

/-- The option entries that arguments give. -/
def Arguments.entries (a : Arguments) : List (String × Value) :=
  let text (name : String) (s : Option String) : List (String × Value) :=
    (s.map fun s => (name, .text s)).toList
  let flag (name : String) (b : Bool) : List (String × Value) := if b then [(name, .bool true)] else []
  text "charset" a.charset ++ text "collation" a.collation ++ flag "json_tag" a.json ++
    text "table_prefix" a.tablePrefixes ++ text "column_prefix" a.columnPrefixes ++
    flag "no_null_type" a.noNull ++ text "null_style" a.nullStyle ++ text "package" a.package ++
    flag "with_type" a.withType ++ flag "force_table_name" a.withTableName

def Arguments.sources (a : Arguments) : InputSources :=
  { sql := a.sql, file := a.inputFile, database := a.database, table := a.table }

/-- The logger of a run: lines for a console, the least severe ones on demand only. -/
def Arguments.logger (a : Arguments) (terminal : Bool) : Log.Logger :=
  ({} : Log.Logger).setUp terminal (if a.verbose then 10 else 20) (!a.noColor)

def commandWarning (statement : String) : Log.Record :=
  .warning ("'" ++ statement ++
    "' contains unsupported syntax. Falling back to parsing as a 'Command'.")

def serve (logger : Log.Logger) (address : String) (r : Run) : Run :=
  match Web.Address.ofText address with
  | .error e => (r.say (logger.write (.failure ("Configuration Error: " ++ e.message)))).stop 1
  | .ok address =>
    { r.say (logger.write (.notice ("Serving on " ++ address.url))) with served := [address] }

section

variable [Text.Halves]

/-- Writes the source to a file, or to the output if no file is named. The file is opened before the source is
made bytes, so a source that cannot be leaves it empty. -/
def deliver (w : World) (logger : Log.Logger) (source : String) (file : Option String) (r : Run) : Run :=
  match InputSources.given file with
  | none => if source.toList.all w.prints then { r with output := r.output ++ source } else r.breakDown .loneHalf
  | some file =>
    let path := Files.Path.ofText file
    let halved := source.toList.any Text.isLoneHalf
    match r.files.write path (if halved then [] else Text.Utf8.encode source) with
    | .ok files =>
      let r := { r with files }
      if halved then r.breakDown .loneHalf
      else r.say (logger.write (.success ("Generated " ++ file)))
    | .error .nullCharacter => r.breakDown (.output .nullCharacter)
    | .error refusal =>
      (r.say (logger.write (.failure ("write " ++ file ++ " failed: " ++ refusal.message path)))).stop 1

/-- Ends a run that has failed: with a log line if there is a report. -/
def giveUp (logger : Log.Logger) (report : Option Report) (b : Breakdown) (r : Run) : Run :=
  match report with
  | some report => (r.say (logger.write (.failure report.text))).stop 1
  | none => r.breakDown b

variable [Sql.Dialect] [Naming.Inflection] [Validator] [Yaml.Loader]

/-- Writes Go source for the input that the arguments name. -/
def generate (w : World) (logger : Log.Logger) (a : Arguments) (r : Run) : Run :=
  match Options.load w.files a.config a.entries with
  | .error (.refused path refusal) =>
    let text := "write " ++ a.outputFile.getD "None" ++ " failed: " ++ refusal.message (.ofText path)
    (r.say (logger.write (.failure text))).stop 1
  | .error e => giveUp logger e.report? (.options e) r
  | .ok options =>
    let resolved := a.sources.resolve w.files w.database w.process
    let r := { r with queries := resolved.queries }
    let r := if resolved.queries.isEmpty then r else
      r.say (logger.write (.notice ("Fetching CREATE TABLE statement for '" ++ a.table.getD "" ++ "'...")))
    match resolved.result with
    | .error e => giveUp logger e.report? (.input e) r
    | .ok sql =>
      let r := r.say (logger.write (.progress "Generating GORM models..."))
      let r := (Sql.commandsIn sql).foldl (fun r text => r.say (logger.write (commandWarning text))) r
      match compile options sql with
      | .error e => giveUp logger e.report? (.compile e) r
      | .ok source => deliver w logger source a.outputFile r

def execute (w : World) (a : Arguments) (r : Run) : Run :=
  let logger := a.logger w.terminal
  if a.serve then serve logger a.serveAddress r
  else if a.sources.count == 0 then (r.say ("no SQL input(--sql|-f|--db-dsn)\n\n" ++ usage)).stop 2
  else generate w logger a r

def run (w : World) (words : List String) : Run :=
  let start : Run := { files := w.files }
  match Command.ofWords words with
  | .ok .help => { start with output := helpText }
  | .ok (.run a) => execute w a start
  | .error (.droppedValue switch) => start.breakDown (.usage (.droppedValue switch))
  | .error e => (start.say (usage ++ program ++ ": error: " ++ e.message ++ "\n")).stop 2

end

end GormModels.Cli
