import GormModels.Proofs.Cli.Run
import GormModels.Proofs.Files

/-!
# What a run leaves behind

A run that fails leaves nothing but log lines, and a run that succeeds leaves its source in one place. All that
can fail is done before anything is delivered, so a run is followed up to its delivery as one that has left
nothing yet.
-/

namespace GormModels.Cli

open Files InputSources

/-- The exit status of a run, if it comes to one. -/
def Run.exit? (r : Run) : Option Nat := r.status.toOption

section

variable [Text.Halves] {w : World} {a : Arguments} {r : Run} {logger : Log.Logger}

/-- The run has written nothing, neither to the output nor to a file. -/
structure Untouched (w : World) (r : Run) : Prop where
  output : r.output = ""
  files : r.files = w.files

/-- The run goes on, and all that it has done so far is to ask and to log. -/
structure Pending (w : World) (r : Run) : Prop extends Untouched w r where
  goesOn : r.exit? = some 0

/-- The run has written the source: to the file, if one is named, and only there, or else to the output. An empty
name is as good as none. -/
def Delivers (w : World) (file : Option String) (source : String) (r : Run) : Prop :=
  match given file with
  | some file => w.files.Wrote r.files (.ofText file) (Text.Utf8.encode source) ∧ r.output = ""
  | none => r.output = source ∧ r.files = w.files

/-! ### Up to the delivery -/

theorem Untouched.say (h : Untouched w r) (text : String) : Untouched w (r.say text) := ⟨h.output, h.files⟩

namespace Pending

theorem say (h : Pending w r) (text : String) : Pending w (r.say text) := ⟨h.toUntouched.say text, h.goesOn⟩

theorem ask (h : Pending w r) (queries : List String) : Pending w { r with queries } :=
  ⟨⟨h.output, h.files⟩, h.goesOn⟩

theorem foldl_say {α : Type} (f : α → String) (xs : List α) (h : Pending w r) :
    Pending w (xs.foldl (fun r x => r.say (f x)) r) := by
  obtain ⟨log, hlog⟩ := exists_foldl_say f xs r
  rw [hlog]
  exact ⟨⟨h.output, h.files⟩, h.goesOn⟩

end Pending

theorem pending_start (w : World) : Pending w { files := w.files } := ⟨⟨rfl, rfl⟩, rfl⟩

theorem untouched_serve (h : Untouched w r) (logger : Log.Logger) (address : String) :
    Untouched w (serve logger address r) := by
  unfold serve
  split <;> exact ⟨h.output, h.files⟩

/-! ### The ways to end -/

variable [Sql.Dialect] [Naming.Inflection] [Validator] [Yaml.Loader]

/-- The run has written what its arguments, the files and the database come to. -/
structure Succeeds (w : World) (a : Arguments) (r : Run) : Prop where
  delivery : ∃ options sql source, Options.load w.files a.config a.entries = .ok options ∧
    (a.sources.resolve w.files w.database w.process).result = .ok sql ∧ compile options sql = .ok source ∧
    Delivers w a.outputFile source r

/-- How a run ends: it fails and has written nothing, or succeeds, or breaks down. -/
inductive Ends (w : World) (a : Arguments) (r : Run) : Prop
  | failed (huntouched : Untouched w r) (hexit : r.exit? ≠ some 0)
  | succeeded (hsucceeds : Succeeds w a r) (hexit : r.exit? = some 0)
  | brokeDown (hexit : r.exit? = none)

theorem Ends.untouched (h : Ends w a r) {status : Nat} (hstatus : r.exit? = some status) (hne : status ≠ 0) :
    Untouched w r := by
  cases h with
  | failed huntouched => exact huntouched
  | succeeded _ hexit => exact absurd (Option.some.inj (hstatus.symm.trans hexit)) hne
  | brokeDown hexit => cases hstatus.symm.trans hexit

theorem Ends.succeeds (h : Ends w a r) (hexit : r.exit? = some 0) : Succeeds w a r := by
  cases h with
  | failed _ hne => exact absurd hexit hne
  | succeeded hsucceeds => exact hsucceeds
  | brokeDown hnone => cases hexit.symm.trans hnone

theorem ends_stop (h : Untouched w r) {status : Nat} (hstatus : status ≠ 0) : Ends w a (r.stop status) :=
  .failed ⟨h.output, h.files⟩ (by simpa [Run.exit?, Run.stop, Except.toOption] using hstatus)

theorem ends_giveUp (h : Untouched w r) (report : Option Report) (b : Breakdown) :
    Ends w a (giveUp logger report b r) := by
  cases report with
  | none => exact .brokeDown rfl
  | some report => exact ends_stop (h.say _) Nat.one_ne_zero

/-- Delivery is the last step, so what is delivered is what the run has come to. -/
theorem ends_deliver (h : Pending w r) {options : Options} {sql source : String}
    (hoptions : Options.load w.files a.config a.entries = .ok options)
    (hsql : (a.sources.resolve w.files w.database w.process).result = .ok sql)
    (hsource : compile options sql = .ok source) :
    Ends w a (deliver w logger source a.outputFile r) := by
  have hdone (r' : Run) (hr' : Delivers w a.outputFile source r') : Succeeds w a r' :=
    ⟨options, sql, source, hoptions, hsql, hsource, hr'⟩
  cases hfile : given a.outputFile with
  | none =>
      rw [deliver, hfile]
      dsimp only
      split
      case isTrue =>
          refine .succeeded (hdone _ ?_) h.goesOn
          rw [Delivers, hfile]
          exact ⟨by simp [h.output], h.files⟩
      case isFalse => exact .brokeDown rfl
  | some file =>
      rw [deliver, hfile]
      dsimp only
      split
      case h_1 files hwrite =>
          split_ifs at hwrite ⊢ with hhalved
          · exact .brokeDown rfl
          · refine .succeeded (hdone _ ?_) h.goesOn
            rw [Delivers, hfile]
            exact ⟨Tree.wrote_of_write (h.files ▸ hwrite), h.output⟩
      case h_2 => exact .brokeDown rfl
      case h_3 => exact ends_stop (h.toUntouched.say _) Nat.one_ne_zero

theorem ends_generate (h : Pending w r) : Ends w a (generate w logger a r) := by
  unfold generate
  split
  case h_1 => exact ends_stop (h.toUntouched.say _) Nat.one_ne_zero
  case h_2 => exact ends_giveUp h.toUntouched _ _
  case h_3 options hoptions =>
      have hasked := h.ask (a.sources.resolve w.files w.database w.process).queries
      dsimp only
      -- Asking a database is logged, so the run goes on in two ways that no later step tells apart.
      generalize hr' : (if (a.sources.resolve w.files w.database w.process).queries.isEmpty then _ else _) = r'
      have hr' : Pending w r' := by
        subst hr'
        split
        · exact hasked
        · exact hasked.say _
      split
      case h_1 => exact ends_giveUp hr'.toUntouched _ _
      case h_2 sql hsql =>
          have hread := (hr'.say (logger.write (.progress "Generating GORM models..."))).foldl_say
            (fun text => logger.write (commandWarning text)) (Sql.commandsIn sql)
          split
          case h_1 => exact ends_giveUp hread.toUntouched _ _
          case h_2 source hsource => exact ends_deliver hread hoptions hsql hsource

/-! ### All or nothing -/

theorem ends_execute (h : Pending w r) (hserve : a.serve = false) : Ends w a (execute w a r) := by
  simp only [execute, hserve, Bool.false_eq_true, if_false]
  split
  · exact ends_stop (h.toUntouched.say _) (by decide)
  · exact ends_generate h

end

/-- A world without files, whose output takes every character. -/
def emptyWorld : World := { prints := fun _ => true }

def memoSql : String := "CREATE TABLE memo (id INT)"

/-- A run for the text whose file, if any, has no name writes no file and succeeds. -/
theorem exists_run_memo {words : List String} {file : Option String} (hfile : given file = none)
    (hwords : Command.ofWords words = .ok (.run { sql := some memoSql, outputFile := file })) :
    ∃ output log, run emptyWorld words = { output, log, files := {} } := by
  have hsources : ({ sql := some memoSql, outputFile := file } : Arguments).sources = { sql := some memoSql } := rfl
  have hsql : memoSql ≠ "" := by decide
  have hmade : (compile {} memoSql).toOption.isSome := by decide +kernel
  obtain ⟨source, hsource⟩ := Option.isSome_iff_exists.mp hmade
  have hcompile := Attempt.toOption_eq_some_iff.mp hsource
  have hload : Options.load emptyWorld.files none [] = .ok {} := rfl
  obtain ⟨log, hlog⟩ := exists_generate_eq hsources hsql hload _
  refine ⟨source, log, (run_eq_generate hsources hsql hwords rfl).trans (hlog.trans ?_)⟩
  simp [hcompile, deliver, hfile, emptyWorld]

end GormModels.Cli
