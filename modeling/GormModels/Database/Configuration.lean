import GormModels.Database.SourceName
import GormModels.Report.Credentials

/-!
The connection settings of a process. They are set once; later ones must agree with the first.
-/

namespace GormModels.Database

/-- What has been configured so far: each list entry is one call, and there is never more than one. -/
structure Configuration where
  active : Option Settings := none
  configured : List Settings := []
  setups : Nat := 0
  deriving DecidableEq, Repr

/-- The process already uses another database. -/
def conflictReport : Report :=
  .databaseConnection "Django is already configured for a different database in this process"

namespace Configuration

/-- Uses settings, whose second component tells the failure if they conflict with those in use. -/
def use (c : Configuration) (settings : Settings) : Configuration × Option Report :=
  match c.active with
  | some active => (c, if active.same settings then none else some conflictReport)
  | none =>
    ({ active := some settings
       configured := c.configured ++ [settings]
       setups := c.setups + 1 }, none)

/-- The outcome of handling one source name. -/
inductive Outcome
  | done
  | refused (error : SourceNameError)
  | conflict (report : Report)

/-- Handles a source name; one that cannot be parsed changes nothing. -/
def handle (c : Configuration) (source : String) : Configuration × Outcome :=
  match parseSourceName source with
  | .error e => (c, .refused e)
  | .ok settings =>
    match c.use settings with
    | (c, none) => (c, .done)
    | (c, some report) => (c, .conflict report)

/-- The configurations after each of some source names, with the outcomes. -/
def run (c : Configuration) : List String → List (Configuration × Outcome)
  | [] => []
  | source :: rest =>
    let (c, outcome) := c.handle source
    (c, outcome) :: run c rest

end Configuration

end GormModels.Database
