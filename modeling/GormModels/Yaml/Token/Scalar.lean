import GormModels.Text.Hex
import GormModels.Yaml.Cursor

/-!
Reading scalars: plain ones, those in quotes, and blocks. Line ends within a scalar are folded: one becomes
a space, of more the first is dropped.
-/

namespace GormModels.Yaml

open Cursor

/-- What a line end with further ones behind it counts as. -/
def fold (first more : List Char) : List Char :=
  if first != ['\n'] then first ++ more else if more.isEmpty then [' '] else more

/-! ### Plain scalars -/

/-- The brackets and the comma, which end a plain scalar in a flow collection. -/
def flowSigns : List Char := [',', '[', ']', '\x7b', '\x7d']

/-- How many characters at the start a plain scalar takes before a blank or an indicator. -/
def plainLength (flow : Bool) : List Char → Nat
  | [] => 0
  | c :: rest =>
    let next := rest.head?.getD '\x00'
    if isBlankOrEnd c then 0
    else if c == ':' && (isBlankOrEnd next || flow && flowSigns.contains next) then 0
    else if flow && (c == '?' || flowSigns.contains c) then 0
    else plainLength flow rest + 1

/-- The line ends among the blanks at the start, and whether a line that parts documents follows one. -/
def plainBreaks (fuel : Nat) (c : Cursor) : List Char × Bool × Cursor :=
  match fuel with
  | 0 => ([], false, c)
  | fuel + 1 =>
    if c.peek == ' ' then plainBreaks fuel (c.advance 1)
    else if isBreak c.peek then
      let (first, c) := c.lineBreak
      if c.atSeparator then (first, true, c)
      else
        let (more, parted, c) := plainBreaks fuel c
        (first ++ more, parted, c)
    else ([], false, c)

/-- What the blanks behind a part of a plain scalar count as, nothing if the scalar ends there, and whether
there is a line end among them. -/
def plainBlanks (c : Cursor) : List Char × Bool × Cursor :=
  let (blanks, c) := c.span (· == ' ')
  if isBreak c.peek then
    let (first, c) := c.lineBreak
    if c.atSeparator then ([], true, c)
    else
      let (more, parted, c) := plainBreaks (c.rest.length + 1) c
      (if parted then [] else fold first more, true, c)
  else (blanks, false, c)

/-- A scalar with the place where it stops, and whether a line ended behind it. -/
structure Plain where
  text : List Char
  stop : Mark
  broken : Bool
  cursor : Cursor

def plainParts (fuel : Nat) (flow : Bool) (indent : Int) (blanks : List Char) (stop : Mark)
    (broken : Bool) (c : Cursor) : Plain :=
  match fuel with
  | 0 => ⟨[], stop, broken, c⟩
  | fuel + 1 =>
    let length := plainLength flow c.rest
    if c.peek == '#' || length == 0 then ⟨[], stop, broken, c⟩
    else
      let text := blanks ++ c.rest.take length
      let c := c.advance length
      let stop := c.mark
      let (blanks, broken, c) := plainBlanks c
      if blanks.isEmpty || c.peek == '#' || !flow && (c.mark.column : Int) < indent then
        ⟨text, stop, broken, c⟩
      else
        let p := plainParts fuel flow indent blanks stop broken c
        { p with text := text ++ p.text }

/-- A plain scalar; outside of flow collections its lines are indented by `indent` at least. -/
def readPlain (flow : Bool) (indent : Int) (c : Cursor) : Plain :=
  plainParts (c.rest.length + 1) flow indent [] c.mark false c

/-! ### Quoted scalars -/

def isTabOrSpace (c : Char) : Bool := c == ' ' || c == '\t'

def quoted : Activity := .scanning "a quoted scalar"

def doubleQuoted : Activity := .scanning "a double-quoted scalar"

def quotedBreaks (fuel : Nat) (start : Mark) (c : Cursor) : Except Error (List Char × Cursor) :=
  match fuel with
  | 0 => .ok ([], c)
  | fuel + 1 =>
    if c.atSeparator then c.fail .documentSeparator (some quoted) start
    else do
      let c := c.skip isTabOrSpace
      if isBreak c.peek then
        let (first, c) := c.lineBreak
        let (more, c) ← quotedBreaks fuel start c
        return (first ++ more, c)
      else return ([], c)

/-- What blanks within a quoted scalar count as. -/
def quotedBlanks (start : Mark) (c : Cursor) : Except Error (List Char × Cursor) := do
  let (blanks, c) := c.span isTabOrSpace
  if c.peek == '\x00' then c.fail .endOfText (some quoted) start
  else if isBreak c.peek then
    let (first, c) := c.lineBreak
    let (more, c) ← quotedBreaks (c.rest.length + 1) start c
    return (fold first more, c)
  else return (blanks, c)

/-- What a backslash with a character stands for. -/
def escapes : List (Char × Char) :=
  [('0', '\x00'), ('a', '\x07'), ('b', '\x08'), ('t', '\t'), ('\t', '\t'), ('n', '\n'), ('v', '\x0b'),
    ('f', '\x0c'), ('r', '\r'), ('e', '\x1b'), (' ', ' '), ('"', '"'), ('\\', '\\'), ('/', '/'),
    ('N', '\x85'), ('_', '\xa0'), ('L', '\u2028'), ('P', '\u2029')]

/-- How many hexadecimal digits follow a character behind a backslash. -/
def escapeDigits : List (Char × Nat) := [('x', 2), ('u', 4), ('U', 8)]

/-- The character of a code point; the code points of surrogates have a replacement. -/
def charOf (code : Nat) : Char := if code.isValidChar then .ofNat code else '\ufffd'

/-- What is written behind a backslash. -/
def escape (start : Mark) (c : Cursor) : Except Error (List Char × Cursor) :=
  match escapes.lookup c.peek, escapeDigits.lookup c.peek with
  | some char, _ => .ok ([char], c.advance 1)
  | none, some n =>
    let c := c.advance 1
    match (List.range n).find? fun k => (Text.hexValue? (c.peek k)).isNone with
    | some k => c.fail (.expectedEscape n (c.peek k)) (some doubleQuoted) start
    | none =>
      let code := (Text.hexNumber? (c.rest.take n)).getD 0
      if code > 0x10FFFF then .error (.misfit (.codePoint code))
      else .ok ([charOf code], c.advance n)
  | none, none =>
    if isBreak c.peek then
      let c := c.lineBreak.2
      quotedBreaks (c.rest.length + 1) start c
    else c.fail (.unknownEscape c.peek) (some doubleQuoted) start

/-- The part of a quoted scalar up to a blank or its end. -/
def quotedRun (fuel : Nat) (double : Bool) (start : Mark) (c : Cursor) :
    Except Error (List Char × Cursor) :=
  match fuel with
  | 0 => .ok ([], c)
  | fuel + 1 => do
    let (text, c) := c.span fun ch => !(ch ∈ ['\'', '"', '\\'] || isBlankOrEnd ch)
    let ch := c.peek
    if !double && ch == '\'' && c.peek 1 == '\'' then
      let (more, c) ← quotedRun fuel double start (c.advance 2)
      return (text ++ '\'' :: more, c)
    else if double && ch == '\'' || !double && (ch == '"' || ch == '\\') then
      let (more, c) ← quotedRun fuel double start (c.advance 1)
      return (text ++ ch :: more, c)
    else if double && ch == '\\' then
      let (escaped, c) ← escape start (c.advance 1)
      let (more, c) ← quotedRun fuel double start c
      return (text ++ escaped ++ more, c)
    else return (text, c)

def quotedParts (fuel : Nat) (quote : Char) (start : Mark) (c : Cursor) :
    Except Error (List Char × Cursor) :=
  match fuel with
  | 0 => .ok ([], c)
  | fuel + 1 => do
    let (text, c) ← quotedRun (c.rest.length + 1) (quote == '"') start c
    if c.peek == quote then return (text, c.advance 1)
    let (blanks, c) ← quotedBlanks start c
    let (more, c) ← quotedParts fuel quote start c
    return (text ++ blanks ++ more, c)

/-- A scalar in the quotation marks that it starts with. -/
def readQuoted (c : Cursor) : Except Error (List Char × Cursor) :=
  quotedParts (c.rest.length + 1) c.peek c.mark (c.advance 1)

/-! ### Block scalars -/

/-- What becomes of the line ends behind the last line of a block. -/
inductive Chomping
  | strip
  | clip
  | keep
  deriving DecidableEq, Repr

def block : Activity := .scanning "a block scalar"

def chompingAt (c : Cursor) : Option Chomping × Cursor :=
  if c.peek == '+' then (some .keep, c.advance 1)
  else if c.peek == '-' then (some .strip, c.advance 1)
  else (none, c)

def indentationAt (start : Mark) (c : Cursor) : Except Error (Option Nat × Cursor) :=
  if c.peek == '0' then c.fail .zeroIndentation (some block) start
  else if c.peek.isDigit then .ok (some (c.peek.toNat - 48), c.advance 1)
  else .ok (none, c)

/-- The indicators behind the sign of a block: chomping and indentation, in either order. -/
def blockIndicators (start : Mark) (c : Cursor) : Except Error (Chomping × Option Nat × Cursor) := do
  let (chomping, c) := chompingAt c
  let (increment, c) ← indentationAt start c
  let (chomping, c) := match chomping, increment with
    | none, some _ => chompingAt c
    | chomping, _ => (chomping, c)
  c.demand isSpaceOrEnd "chomping or indentation indicators" block start
  return (chomping.getD .clip, increment, c)

/-- The empty lines at the start of a block, and the widest indentation among them and the first line. -/
def blockStart (fuel : Nat) (widest : Nat) (c : Cursor) : List Char × Nat × Cursor :=
  match fuel with
  | 0 => ([], widest, c)
  | fuel + 1 =>
    if c.peek == ' ' then
      let c := c.advance 1
      blockStart fuel (max widest c.mark.column) c
    else if isBreak c.peek then
      let (first, c) := c.lineBreak
      let (more, widest, c) := blockStart fuel widest c
      (first ++ more, widest, c)
    else ([], widest, c)

/-- The empty lines before the next line of a block. -/
def blockBreaks (fuel indent : Nat) (c : Cursor) : List Char × Cursor :=
  match fuel with
  | 0 => ([], c)
  | fuel + 1 =>
    let spaces := (c.rest.takeWhile (· == ' ')).length
    let c := c.advance (min spaces (indent - c.mark.column))
    if isBreak c.peek then
      let (first, c) := c.lineBreak
      let (more, c) := blockBreaks fuel indent c
      (first ++ more, c)
    else ([], c)

/-- The lines of a block; `last` is the end of the last one, and `breaks` the empty lines behind it. -/
structure BlockLines where
  text : List Char
  last : List Char
  breaks : List Char
  cursor : Cursor

def inBlock (indent : Nat) (c : Cursor) : Bool := c.mark.column == indent && c.peek != '\x00'

def blockLines (fuel : Nat) (folded : Bool) (indent : Nat) (breaks : List Char) (c : Cursor) :
    BlockLines :=
  match fuel with
  | 0 => ⟨[], [], breaks, c⟩
  | fuel + 1 =>
    if !inBlock indent c then ⟨[], [], breaks, c⟩
    else
      let indented := isTabOrSpace c.peek
      let (text, c) := c.span (!isBreakOrEnd ·)
      let (last, c) := c.lineBreak
      let (more, c) := blockBreaks (c.rest.length + 1) indent c
      if inBlock indent c then
        let joint :=
          if folded && last == ['\n'] && !indented && !isTabOrSpace c.peek then
            if more.isEmpty then [' '] else []
          else last
        let lines := blockLines fuel folded indent more c
        { lines with text := breaks ++ text ++ joint ++ lines.text }
      else ⟨breaks ++ text, last, more, c⟩

/-- A block scalar within an indentation. -/
def readBlock (outer : Int) (c : Cursor) : Except Error (List Char × Cursor) := do
  let start := c.mark
  let folded := c.peek == '>'
  let (chomping, increment, c) ← blockIndicators start (c.advance 1)
  let c := (c.skip (· == ' ')).skipComment
  c.demand isBreakOrEnd "a comment or a line break" block start
  let c := c.lineBreak.2
  let least := (max 1 (outer + 1)).toNat
  let fuel := c.rest.length + 1
  let (breaks, indent, c) := match increment with
    | none =>
      let (breaks, widest, c) := blockStart fuel 0 c
      (breaks, max least widest, c)
    | some n =>
      let indent := least + n - 1
      let (breaks, c) := blockBreaks fuel indent c
      (breaks, indent, c)
  let lines := blockLines fuel folded indent breaks c
  let ending := match chomping with
    | .strip => []
    | .clip => lines.last
    | .keep => lines.last ++ lines.breaks
  return (lines.text ++ ending, lines.cursor)

end GormModels.Yaml
