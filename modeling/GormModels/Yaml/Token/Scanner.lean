import GormModels.Yaml.Token.Name
import GormModels.Yaml.Token.Scalar

/-!
Cutting a YAML text into tokens. Whether a node is the key of a mapping shows only at the colon behind it;
until then its token waits in a queue, and the tokens that make it a key are put in before it.
-/

namespace GormModels.Yaml

/-- A token that may turn out to be a key, by its number among all tokens. Where it is required, no other
token may start. -/
structure SimpleKey where
  number : Nat
  required : Bool
  index : Nat
  mark : Mark

structure Scanner where
  cursor : Cursor
  queue : List Token := []
  /-- How many tokens have left the queue. -/
  taken : Nat := 0
  /-- How many flow collections are open; surplus closing brackets make it negative. -/
  depth : Int := 0
  indent : Int := -1
  outer : List Int := []
  keyAllowed : Bool := true
  /-- The possible keys by the depth at which they stand. -/
  keys : List (Int × SimpleKey) := []
  finished : Bool := false

namespace Scanner

def inFlow (s : Scanner) : Bool := s.depth != 0

def mark (s : Scanner) : Mark := s.cursor.mark

def column (s : Scanner) : Int := s.mark.column

def fail {α : Type} (s : Scanner) (problem : Problem) : Except Error α := s.cursor.fail problem

def add (s : Scanner) (kind : TokenKind) (start stop : Mark) : Scanner :=
  { s with queue := s.queue ++ [⟨kind, start, stop⟩] }

/-- Adds a token that takes no characters. -/
def addHere (s : Scanner) (kind : TokenKind) : Scanner := s.add kind s.mark s.mark

/-- Adds the token of the next characters. -/
def take (s : Scanner) (kind : TokenKind) (length : Nat := 1) : Scanner :=
  let cursor := s.cursor.advance length
  { s.add kind s.mark cursor.mark with cursor }

/-- Puts a token before the one of a number that is still in the queue. -/
def insertAt (s : Scanner) (number : Nat) (kind : TokenKind) (mark : Mark) : Scanner :=
  let i := number - s.taken
  { s with queue := s.queue.take i ++ ⟨kind, mark, mark⟩ :: s.queue.drop i }

/-! ### Indentation -/

/-- Leaves the indentations beyond a column: their number, the one left and those around it. -/
def leave (column indent : Int) : List Int → Nat × Int × List Int
  | [] => (0, indent, [])
  | next :: outer =>
    if indent > column then
      let (n, indent, outer) := leave column next outer
      (n + 1, indent, outer)
    else (0, indent, next :: outer)

def unwind (s : Scanner) (column : Int) : Scanner :=
  if s.inFlow then s
  else
    let (n, indent, outer) := leave column s.indent s.outer
    { s with queue := s.queue ++ List.replicate n ⟨.blockEnd, s.mark, s.mark⟩, indent, outer }

/-- Whether a column lies beyond the indentation, which it then becomes. -/
def enter (s : Scanner) (column : Int) : Bool × Scanner :=
  if s.indent < column then (true, { s with outer := s.indent :: s.outer, indent := column })
  else (false, s)

/-! ### Possible keys -/

def missingColon {α : Type} (s : Scanner) (key : SimpleKey) : Except Error α :=
  s.cursor.fail .missingColon (some (.scanning "a simple key")) key.mark

/-- Gives up the keys whose colon would be in another line or too far away. -/
def dropStale (s : Scanner) : Except Error Scanner :=
  let stale (key : SimpleKey) : Bool :=
    key.mark.line != s.mark.line || s.cursor.index - key.index > 1024
  match s.keys.find? fun (_, key) => stale key && key.required with
  | some (_, key) => s.missingColon key
  | none => .ok { s with keys := s.keys.filter fun (_, key) => !stale key }

/-- Gives up the key at the depth of the cursor. -/
def dropKey (s : Scanner) : Except Error Scanner :=
  match s.keys.lookup s.depth with
  | some key =>
    if key.required then s.missingColon key
    else .ok { s with keys := s.keys.filter (·.1 != s.depth) }
  | none => .ok s

/-- Notes that the next token may be a key. -/
def noteKey (s : Scanner) : Except Error Scanner := do
  if !s.keyAllowed then return s
  let required := !s.inFlow && s.indent == s.column
  let key : SimpleKey := ⟨s.taken + s.queue.length, required, s.cursor.index, s.mark⟩
  let s ← s.dropKey
  return { s with keys := s.keys ++ [(s.depth, key)] }

/-! ### Fetching tokens -/

/-- Skips spaces, comments and line ends. -/
def skipToToken (fuel : Nat) (s : Scanner) : Scanner :=
  match fuel with
  | 0 => s
  | fuel + 1 =>
    let c := (s.cursor.skip (· == ' ')).skipComment
    let (ended, c) := c.lineBreak
    if ended.isEmpty then { s with cursor := c }
    else skipToToken fuel { s with cursor := c, keyAllowed := s.keyAllowed || !s.inFlow }

def fetchEnd (s : Scanner) : Except Error Scanner := do
  let s ← (s.unwind (-1)).dropKey
  return { s.addHere .textEnd with keyAllowed := false, keys := [], finished := true }

def fetchDirective (s : Scanner) : Except Error Scanner := do
  let s ← (s.unwind (-1)).dropKey
  let (token, cursor) ← readDirective s.cursor
  return { s with queue := s.queue ++ [token], cursor, keyAllowed := false }

def fetchSeparator (s : Scanner) (kind : TokenKind) : Except Error Scanner := do
  let s ← (s.unwind (-1)).dropKey
  return { s.take kind 3 with keyAllowed := false }

def fetchOpening (s : Scanner) (kind : TokenKind) : Except Error Scanner := do
  let s ← s.noteKey
  return { s.take kind with depth := s.depth + 1, keyAllowed := true }

def fetchClosing (s : Scanner) (kind : TokenKind) : Except Error Scanner := do
  let s ← s.dropKey
  return { s.take kind with depth := s.depth - 1, keyAllowed := false }

def fetchComma (s : Scanner) : Except Error Scanner := do
  let s ← { s with keyAllowed := true }.dropKey
  return s.take .flowEntry

/-- Starts a block collection at the cursor if it is indented further, outside of flow collections. -/
def openBlock (s : Scanner) (kind : TokenKind) (refusal : Problem) : Except Error Scanner :=
  if s.inFlow then .ok s
  else if !s.keyAllowed then s.fail refusal
  else match s.enter s.column with
    | (true, s) => .ok (s.addHere kind)
    | (false, s) => .ok s

def fetchEntry (s : Scanner) : Except Error Scanner := do
  let s ← s.openBlock .blockSequence .entryNotAllowed
  let s ← { s with keyAllowed := true }.dropKey
  return s.take .blockEntry

def fetchKey (s : Scanner) : Except Error Scanner := do
  let s ← s.openBlock .blockMapping .keyNotAllowed
  let s ← { s with keyAllowed := !s.inFlow }.dropKey
  return s.take .key

/-- A colon makes a key of the token noted at its depth; without one it belongs to a key with an indicator
of its own. -/
def fetchValue (s : Scanner) : Except Error Scanner := do
  match s.keys.lookup s.depth with
  | some key =>
    let s := { s with keys := s.keys.filter (·.1 != s.depth), keyAllowed := false }
    let s := s.insertAt key.number .key key.mark
    let s := if s.inFlow then s else
      match s.enter key.mark.column with
      | (true, s) => s.insertAt key.number .blockMapping key.mark
      | (false, s) => s
    return s.take .value
  | none =>
    let s ← s.openBlock .blockMapping .valueNotAllowed
    let s ← { s with keyAllowed := !s.inFlow }.dropKey
    return s.take .value

/-- Fetches a token that may be a key. -/
def fetchKeyed (s : Scanner) (read : Cursor → Except Error (Token × Cursor)) : Except Error Scanner := do
  let s ← s.noteKey
  let (token, cursor) ← read s.cursor
  return { s with queue := s.queue ++ [token], cursor, keyAllowed := false }

def fetchBlock (s : Scanner) : Except Error Scanner := do
  let s ← { s with keyAllowed := true }.dropKey
  let (text, cursor) ← readBlock s.indent s.cursor
  return { s.add (.scalar (.ofList text) false) s.mark cursor.mark with cursor }

def quotedToken (c : Cursor) : Except Error (Token × Cursor) := do
  let (text, behind) ← readQuoted c
  return (⟨.scalar (.ofList text) false, c.mark, behind.mark⟩, behind)

def fetchPlain (s : Scanner) : Except Error Scanner := do
  let s ← s.noteKey
  let p := readPlain s.inFlow (s.indent + 1) s.cursor
  return { s.add (.scalar (.ofList p.text) true) s.mark p.stop with
    cursor := p.cursor, keyAllowed := p.broken }

/-- The indicators, none of which starts a plain scalar but those of an entry, a key and a value where
something other than a blank follows. -/
def indicators : List Char :=
  ['-', '?', ':', ',', '[', ']', '\x7b', '\x7d', '#', '&', '*', '!', '|', '>', '\'', '"', '%', '@',
    '\x60']

def startsPlain (s : Scanner) : Bool :=
  let c := s.cursor.peek
  let next := s.cursor.peek 1
  !(isBlankOrEnd c || indicators.contains c) ||
    !isBlankOrEnd next && (c == '-' || !s.inFlow && (c == '?' || c == ':'))

/-- Fetches the tokens that the next characters make. -/
def fetchNext (s : Scanner) : Except Error Scanner :=
  let c := s.cursor.peek
  let blankNext := isBlankOrEnd (s.cursor.peek 1)
  let atStart := s.mark.column == 0
  if c == '\x00' then s.fetchEnd
  else if c == '%' && atStart then s.fetchDirective
  else if c == '-' && atStart && s.cursor.atSeparator then s.fetchSeparator .documentStart
  else if c == '.' && atStart && s.cursor.atSeparator then s.fetchSeparator .documentEnd
  else if c == '[' then s.fetchOpening .flowSequence
  else if c == '\x7b' then s.fetchOpening .flowMapping
  else if c == ']' then s.fetchClosing .flowSequenceEnd
  else if c == '\x7d' then s.fetchClosing .flowMappingEnd
  else if c == ',' then s.fetchComma
  else if c == '-' && blankNext then s.fetchEntry
  else if c == '?' && (s.inFlow || blankNext) then s.fetchKey
  else if c == ':' && (s.inFlow || blankNext) then s.fetchValue
  else if c == '*' then s.fetchKeyed (readAnchor .aliasOf "an alias")
  else if c == '&' then s.fetchKeyed (readAnchor .anchor "an anchor")
  else if c == '!' then s.fetchKeyed readTag
  else if (c == '|' || c == '>') && !s.inFlow then s.fetchBlock
  else if c == '\'' || c == '"' then s.fetchKeyed quotedToken
  else if s.startsPlain then s.fetchPlain
  else s.cursor.fail (.unstartable c) (some (.scanning "for the next token"))

def fetch (s : Scanner) : Except Error Scanner := do
  let s ← (s.skipToToken (s.cursor.rest.length + 1)).dropStale
  (s.unwind s.column).fetchNext

/-- Whether the first token of the queue may still become a key. -/
def awaits (s : Scanner) : Except Error (Bool × Scanner) := do
  if s.queue.isEmpty then return (true, s)
  let s ← s.dropStale
  return (s.keys.any (·.2.number == s.taken), s)

/-- The tokens in the order in which they are settled, and the error that ends them. -/
def run (fuel : Nat) (s : Scanner) : List Token × Option Error :=
  match fuel with
  | 0 => ([], none)
  | fuel + 1 =>
    if s.finished then (s.queue, none)
    else match s.awaits with
      | .error e => ([], some e)
      | .ok (true, s) =>
        match s.fetch with
        | .error e => ([], some e)
        | .ok s => run fuel s
      | .ok (false, s) =>
        match s.queue with
        | [] => ([], none)
        | token :: queue =>
          let (tokens, e) := run fuel { s with queue, taken := s.taken + 1 }
          (token :: tokens, e)

end Scanner

/-- The tokens of a text. A byte order mark may stand at its start. -/
def tokensOf (text : List Char) : List Token × Option Error :=
  let cursor : Cursor := { rest := text }
  let cursor := if cursor.peek == '\ufeff' then cursor.advance 1 else cursor
  Scanner.run (8 * text.length + 16) { cursor }

end GormModels.Yaml
