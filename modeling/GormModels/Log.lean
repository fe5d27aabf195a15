import GormModels.Log.Layout

/-!
Log lines on a terminal, coloured by severity or, for plain notices, by the mark that they start with.
-/

namespace GormModels.Log

def defaultLayout : String := "%(levelname)s: %(message)s"

def bold : String := "\x1b[1m"

def reset : String := "\x1b[0m"

def successMark : Char := '✓'

def progressMark : Char := '→'

namespace Record

def notice (message : String) : Record := ⟨"", 20, message⟩

def warning (message : String) : Record := ⟨"", 30, message⟩

def failure (message : String) : Record := ⟨"", 40, message⟩

def marked (mark : Char) (message : String) : Record := notice (.singleton mark ++ " " ++ message)

def success (message : String) : Record := marked successMark message

def progress (message : String) : Record := marked progressMark message

end Record

/-- The colour of a record, if it has one. -/
def Record.color? (r : Record) : Option String :=
  match r.level with
  | 10 => some "\x1b[2m"
  | 20 =>
    match r.message.toList with
    | c :: _ =>
      if c == successMark then some ("\x1b[32m" ++ bold)
      else if c == progressMark then some "\x1b[34m"
      else none
    | [] => none
  | 30 => some "\x1b[33m"
  | 40 => some "\x1b[31m"
  | 50 => some "\x1b[1;31m"
  | _ => none

/-- How records become lines. Colours are for terminals only. -/
structure Style where
  layout : String := defaultLayout
  colors : Bool := false
  deriving DecidableEq, Repr

/-- A style with a layout that may be missing or empty. -/
def Style.make (layout : Option String) (useColors terminal : Bool) : Style :=
  { layout := (layout.filter (· != "")).getD defaultLayout, colors := useColors && terminal }

def Style.format (s : Style) (r : Record) : Except LayoutFault String := do
  let text ← fill s.layout r
  match if s.colors then r.color? else none with
  | some color => return color ++ text ++ reset
  | none => return text

/-- What becomes of records: nothing, or lines for those of a level at least. -/
inductive Handler
  | silent
  | console (level : Int) (style : Style)
  deriving DecidableEq, Repr

/-- The line that a handler writes of a record, with its end. -/
def Handler.write (r : Record) : Handler → String
  | silent => ""
  | console level style =>
    if r.level < level then "" else ((style.format r).toOption.map (· ++ "\n")).getD ""

/-- The handlers of a process, and the level below which records are not even made. -/
structure Logger where
  handlers : List Handler := [.silent]
  level : Int := 30
  deriving DecidableEq, Repr

namespace Logger

/-- Writes to a console from now on, and nowhere else. -/
def setUp (terminal : Bool) (level : Int) (useColors : Bool) (_ : Logger) : Logger :=
  { handlers := [.console level (.make none useColors terminal)], level }

/-- What is written of a record. Only levels above zero are ever enabled. -/
def write (l : Logger) (r : Record) : String :=
  if r.level ≤ 0 ∨ r.level < l.level then "" else "".intercalate (l.handlers.map (·.write r))

end Logger

end GormModels.Log
