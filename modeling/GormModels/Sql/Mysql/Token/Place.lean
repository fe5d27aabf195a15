import GormModels.Sql.Token

/-!
Places of tokens: how far each line and each column goes.
-/

namespace GormModels.Sql

namespace Position

def start : Position := ⟨1, 0⟩

/-- The position after reading `next` where `previous` was the character before it: a line feed or a
carriage return ends a line, and the two together end it once. -/
def step (p : Position) (previous next : Char) : Position :=
  if previous == '\r' && next == '\n' then p
  else if previous == '\n' || previous == '\r' then ⟨p.line + 1, 1⟩
  else ⟨p.line, p.column + 1⟩

/-- Reads plain text, of which every line end counts. -/
def through (p : Position) (previous : Char) : List Char → Position × Char
  | [] => (p, previous)
  | c :: rest => (p.step previous c).through c rest

/-- Reads a quoted string, in which a backslash and the character after it count as one step in the
line. -/
def throughString (p : Position) (previous : Char) : List Char → Position × Char
  | [] => (p, previous)
  | '\\' :: c :: rest =>
    let q := p.step previous '\\'
    throughString ⟨q.line, q.column + 1⟩ (if c == '\n' || c == '\r' then '\\' else c) rest
  | c :: rest => (p.step previous c).throughString c rest

/-- Reads one token; the blanks within a key phrase do not end a line. -/
def throughToken (p : Position) (previous : Char) (t : Token) : Position × Char :=
  match t.kind, t.source with
  | .word, c :: rest =>
    let q := p.step previous c
    (⟨q.line, q.column + rest.length⟩, (c :: rest).getLast (by simp))
  | .string, s => p.throughString previous s
  | .nationalString, s => p.throughString previous s
  | _, s => p.through previous s

end Position

namespace PlacedToken

/-- Places tokens one after another from a position on, `start` characters behind the start. -/
def placeFrom (start : Nat) (p : Position) (previous : Char) : List Token → List PlacedToken
  | [] => []
  | t :: rest =>
    let (p, previous) := p.through previous t.skipped
    let (p, previous) := p.throughToken previous t
    let start := start + t.skipped.length
    ⟨t, start, p⟩ :: placeFrom (start + t.source.length) p previous rest

def place (tokens : List Token) : List PlacedToken :=
  placeFrom 0 .start ' ' tokens

end PlacedToken

end GormModels.Sql
