import GormModels.Cli
import GormModels.Proofs.Choice
import GormModels.Proofs.Cli.Words

/-!
# A run for a choice

The command line that makes a choice gives the run the text and the options of that choice, and the run shows
what comes of them in its output and its exit status.
-/

namespace GormModels

open Cli

/-! ### The entries of arguments -/

/-- Arguments give the options that they say something of. -/
theorem Cli.Arguments.entries_eq_present (a : Arguments) : a.entries = Options.present [
    ("charset", a.charset.map .text), ("collation", a.collation.map .text), ("json_tag", Choice.flagValue a.json),
    ("table_prefix", a.tablePrefixes.map .text), ("column_prefix", a.columnPrefixes.map .text),
    ("no_null_type", Choice.flagValue a.noNull), ("null_style", a.nullStyle.map .text),
    ("package", a.package.map .text), ("with_type", Choice.flagValue a.withType),
    ("force_table_name", Choice.flagValue a.withTableName)] := by
  have hflag (name : String) (on : Bool) :
      (if on then [(name, Value.bool true)] else []) = ((Choice.flagValue on).map (name, ·)).toList := by
    cases on <;> rfl
  simp [Arguments.entries, hflag, Function.comp_def]

/-! ### The words of a choice -/

namespace Cli.Setting

def sql : String → Setting := .value "--sql" _ _ rfl rfl
def charset : String → Setting := .value "--charset" _ _ rfl rfl
def collation : String → Setting := .value "--collation" _ _ rfl rfl
def tablePrefixes : String → Setting := .value "--table-prefix" _ _ rfl rfl
def columnPrefixes : String → Setting := .value "--col-prefix" _ _ rfl rfl
def nullStyle : String → Setting := .value "--null-style" _ _ rfl rfl
def package : String → Setting := .value "--pkg" _ _ rfl rfl
def json : Setting := .flag "--json" _ _ rfl rfl
def noNull : Setting := .flag "--no-null" _ _ rfl rfl
def withType : Setting := .flag "--with-type" _ _ rfl rfl
def withTableName : Setting := .flag "--with-tablename" _ _ rfl rfl

end Cli.Setting

namespace Choice

/-- The switches that make a choice. -/
def settings (c : Choice) : List Setting :=
  let text (set : String → Setting) (value : Option String) : List Setting := (value.map set).toList
  let flag (set : Setting) (on : Bool) : List Setting := if on then [set] else []
  .sql c.sql :: (text .charset c.charset ++ text .collation c.collation ++ flag .json c.json ++
    text .tablePrefixes c.tablePrefixes ++ text .columnPrefixes c.columnPrefixes ++ flag .noNull c.noNull ++
    text .nullStyle c.nullStyle ++ text .package c.package ++ flag .withType c.withType ++
    flag .withTableName c.withTableName)

/-- The words of a command line that makes a choice. -/
def words (c : Choice) : List String := c.settings.map Setting.word

def arguments (c : Choice) : Arguments :=
  { sql := some c.sql, charset := c.charset, collation := c.collation, json := c.json
    tablePrefixes := c.tablePrefixes, columnPrefixes := c.columnPrefixes, noNull := c.noNull
    nullStyle := c.nullStyle, package := c.package, withType := c.withType, withTableName := c.withTableName }

/-- Each switch sets a field of its own, and what is not chosen stays as it is. -/
theorem foldl_settings (c : Choice) : c.settings.foldl Setting.apply {} = c.arguments := by
  have htext : ∀ (o : Option String) (a : Arguments),
      (o.map Setting.charset).toList.foldl Setting.apply a = { a with charset := o.or a.charset } ∧
      (o.map Setting.collation).toList.foldl Setting.apply a = { a with collation := o.or a.collation } ∧
      (o.map Setting.tablePrefixes).toList.foldl Setting.apply a =
        { a with tablePrefixes := o.or a.tablePrefixes } ∧
      (o.map Setting.columnPrefixes).toList.foldl Setting.apply a =
        { a with columnPrefixes := o.or a.columnPrefixes } ∧
      (o.map Setting.nullStyle).toList.foldl Setting.apply a = { a with nullStyle := o.or a.nullStyle } ∧
      (o.map Setting.package).toList.foldl Setting.apply a = { a with package := o.or a.package } := by
    rintro (_ | v) a <;> exact ⟨rfl, rfl, rfl, rfl, rfl, rfl⟩
  have hflag : ∀ (on : Bool) (a : Arguments),
      (if on then [Setting.json] else []).foldl Setting.apply a = { a with json := on || a.json } ∧
      (if on then [Setting.noNull] else []).foldl Setting.apply a = { a with noNull := on || a.noNull } ∧
      (if on then [Setting.withType] else []).foldl Setting.apply a = { a with withType := on || a.withType } ∧
      (if on then [Setting.withTableName] else []).foldl Setting.apply a =
        { a with withTableName := on || a.withTableName } := by
    rintro (_ | _) a <;> exact ⟨rfl, rfl, rfl, rfl⟩
  have hsql : Setting.apply {} (.sql c.sql) = { sql := some c.sql } := rfl
  simp only [settings, List.foldl_cons, List.foldl_append, hsql, htext, hflag, arguments, Option.or_none,
    Bool.or_false]

theorem ofWords_words (c : Choice) : Command.ofWords c.words = .ok (.run c.arguments) := by
  rw [words, ofWords_map_word, foldl_settings]

theorem entries_arguments (c : Choice) : c.arguments.entries = c.entries := c.arguments.entries_eq_present

end Choice

/-! ### Runs for a text -/

namespace Cli

theorem given_text {sql : String} (hsql : sql ≠ "") : InputSources.given (some sql) = some sql :=
  Option.filter_some_pos (bne_iff_ne.mpr hsql)

theorem given_none : InputSources.given none = none := rfl

theorem count_text {sql : String} (hsql : sql ≠ "") : ({ sql := some sql } : InputSources).count = 1 := by
  simp [InputSources.count, given_text hsql, given_none]

/-- Neither files nor a database are asked for a text that is given. -/
theorem resolve_text {sql : String} (hsql : sql ≠ "") (files : Files.Tree) (database : Database.Answer)
    (process : Database.Configuration) :
    ({ sql := some sql } : InputSources).resolve files database process = ⟨[], .ok sql⟩ := by
  rw [InputSources.resolve, count_text hsql]
  simp [given_text hsql, given_none]

theorem exists_foldl_say {α : Type} (f : α → String) (xs : List α) (r : Run) :
    ∃ log, xs.foldl (fun r x => r.say (f x)) r = { r with log } := by
  induction xs generalizing r with
  | nil => exact ⟨r.log, rfl⟩
  | cons x xs ih => exact ih (r.say (f x))

section

variable [Text.Halves] [Sql.Dialect] [Naming.Inflection] [Validator] [Yaml.Loader] {w : World} {a : Arguments}
  {sql : String} (hsources : a.sources = { sql := some sql }) (hsql : sql ≠ "")

include hsources hsql

theorem run_eq_generate {words : List String} (hwords : Command.ofWords words = .ok (.run a))
    (hserve : a.serve = false) : run w words = generate w (a.logger w.terminal) a { files := w.files } := by
  simp [run, hwords, execute, hserve, hsources, count_text hsql]

/-- Until its text is compiled, a run only logs. -/
theorem exists_generate_eq {options : Options} (hload : Options.load w.files a.config a.entries = .ok options)
    (logger : Log.Logger) : ∃ log, generate w logger a { files := w.files } =
      match compile options sql with
      | .error e => giveUp logger e.report? (.compile e) { files := w.files, log }
      | .ok source => deliver w logger source a.outputFile { files := w.files, log } := by
  obtain ⟨log, hlog⟩ := exists_foldl_say (fun text => logger.write (commandWarning text)) (Sql.commandsIn sql)
    (({ files := w.files } : Run).say (logger.write (.progress "Generating GORM models...")))
  refine ⟨log, ?_⟩
  simp only [generate, hload, hsources, resolve_text hsql, List.isEmpty_nil, if_true, hlog]
  rfl

end

end Cli

/-! ### What a run shows -/

/-- What a run shows of what its user is told. A source is shown if there are bytes for all of its characters. -/
structure Cli.Shows (prints : Char → Bool) (r : Run) (told : Told) : Prop where
  status : r.status = match told with
    | .source code => if code.toList.all prints then .ok 0 else .error .loneHalf
    | .failure _ => .ok 1
    | .nothing e => .error (.compile e)
  output : r.output = match told with
    | .source code => if code.toList.all prints then code else ""
    | _ => ""

section

variable {prints : Char → Bool} {r : Run} {told : Told}

theorem Cli.Shows.succeeds_iff (h : Shows prints r told) (code : String) :
    r.status = .ok 0 ∧ r.output = code ↔ told = .source code ∧ code.toList.all prints = true := by
  rw [h.status, h.output]
  cases told with
  | source found =>
      by_cases hprints : found.toList.all prints = true
      · simp only [if_pos hprints, true_and, Told.source.injEq]
        exact ⟨fun heq => ⟨heq, heq ▸ hprints⟩, And.left⟩
      · simp only [if_neg hprints, Told.source.injEq]
        refine iff_of_false (fun h => nomatch h.1) ?_
        rintro ⟨rfl, hall⟩
        exact hprints hall
  | failure report => simp
  | nothing e => simp

theorem Cli.Shows.fails_iff (h : Shows prints r told) : r.status = .ok 1 ↔ ∃ report, told = .failure report := by
  rw [h.status]
  cases told with
  | source code => by_cases hprints : code.toList.all prints = true <;> simp only [hprints] <;> simp
  | failure report => simp
  | nothing e => simp

end

section

variable [Text.Halves]

/-- The last step of a run, at which it has shown nothing yet but log lines. -/
theorem Cli.shows_compiled {r : Run} (hstatus : r.status = .ok 0) (houtput : r.output = "") (w : World)
    (logger : Log.Logger) (compiled : Except CompileError String) :
    Shows w.prints
      (match compiled with
        | .error e => giveUp logger e.report? (.compile e) r
        | .ok source => deliver w logger source none r)
      (.ofCompiled compiled) := by
  cases compiled with
  | ok code =>
      change Shows w.prints (if code.toList.all w.prints then { r with output := r.output ++ code } else
        r.breakDown .loneHalf) (.source code)
      by_cases hprints : code.toList.all w.prints = true
      · rw [if_pos hprints]
        exact ⟨by simp [hprints, hstatus], by simp [hprints, houtput]⟩
      · rw [if_neg hprints]
        exact ⟨by simp [hprints, Run.breakDown], by simp [hprints, houtput, Run.breakDown]⟩
  | error e =>
      change Shows w.prints (giveUp logger e.report? (.compile e) r) (e.report?.elim (.nothing e) .failure)
      cases e.report? with
      | none => exact ⟨rfl, houtput⟩
      | some report => exact ⟨rfl, houtput⟩

variable [Sql.Dialect] [Naming.Inflection] [Validator] [Yaml.Loader]

theorem Choice.shows_run (c : Choice) (w : World) : Shows w.prints (run w c.words) c.told := by
  have hsources : c.arguments.sources = { sql := some c.sql } := rfl
  have hload : Options.load w.files c.arguments.config c.arguments.entries =
      (Options.ofEntries c.entries).mapError .options := by
    rw [entries_arguments]
    exact Options.load_given w.files (Options.nodup_present c.nodup_table)
  rw [run_eq_generate hsources c.filled c.ofWords_words rfl, Choice.told]
  cases hoptions : Options.ofEntries c.entries with
  | error e =>
      rw [hoptions] at hload
      rw [generate, hload]
      exact ⟨rfl, rfl⟩
  | ok options =>
      rw [hoptions] at hload
      obtain ⟨log, hlog⟩ := exists_generate_eq hsources c.filled hload (c.arguments.logger w.terminal)
      rw [hlog]
      exact shows_compiled rfl rfl w _ (compile options c.sql)

end

end GormModels
