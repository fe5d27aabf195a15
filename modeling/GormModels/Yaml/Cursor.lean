import GormModels.Yaml.Fault

/-!
A cursor in a text: what is still unread, and where that begins.
-/

namespace GormModels.Yaml

structure Cursor where
  rest : List Char
  index : Nat := 0
  mark : Mark := ⟨0, 0⟩
  deriving Repr

/-- The characters that end a line. -/
def isBreak (c : Char) : Bool := c ∈ ['\n', '\r', '\x85', '\u2028', '\u2029']

/-- Ends of lines, and the end of the text. -/
def isBreakOrEnd (c : Char) : Bool := c == '\x00' || isBreak c

def isSpaceOrEnd (c : Char) : Bool := c == ' ' || isBreakOrEnd c

def isBlankOrEnd (c : Char) : Bool := c == '\t' || isSpaceOrEnd c

/-- The characters of a name. -/
def isNameChar (c : Char) : Bool := c.isAlphanum || c == '-' || c == '_'

namespace Cursor

/-- The character that is `k` places ahead; behind the text there are null characters. -/
def peek (c : Cursor) (k : Nat := 0) : Char := (c.rest[k]?).getD '\x00'

/-- The mark behind a character with others following. A byte order mark takes no column. -/
def markAfter (c : Char) (rest : List Char) (m : Mark) : Mark :=
  if isBreak c && !(c == '\r' && rest.head? == some '\n') then ⟨m.line + 1, 0⟩
  else if c == '\ufeff' then m
  else ⟨m.line, m.column + 1⟩

def advance (n : Nat) (c : Cursor) : Cursor :=
  match n, c.rest with
  | 0, _ => c
  | _, [] => c
  | n + 1, ch :: rest => advance n ⟨rest, c.index + 1, markAfter ch rest c.mark⟩

/-- The characters at the start that satisfy `p`, and the cursor behind them. -/
def span (p : Char → Bool) (c : Cursor) : List Char × Cursor :=
  let found := c.rest.takeWhile p
  (found, c.advance found.length)

def skip (p : Char → Bool) (c : Cursor) : Cursor := (c.span p).2

/-- Skips a comment, up to the end of its line. -/
def skipComment (c : Cursor) : Cursor :=
  if c.peek == '#' then c.skip (!isBreakOrEnd ·) else c

/-- How many characters the line end at the start of a text takes. -/
def breakLength : List Char → Nat
  | '\r' :: '\n' :: _ => 2
  | c :: _ => if isBreak c then 1 else 0
  | [] => 0

/-- What a line end counts as: a line feed, but for the separators of lines and paragraphs. -/
def breakText (c : Char) : Char := if c == '\u2028' || c == '\u2029' then c else '\n'

/-- The line end at the start, and the cursor behind it. -/
def lineBreak (c : Cursor) : List Char × Cursor :=
  match breakLength c.rest with
  | 0 => ([], c)
  | n => ([breakText c.peek], c.advance n)

/-- Whether a line starts here that parts documents. -/
def atSeparator (c : Cursor) : Bool :=
  (c.rest.take 3 == ['-', '-', '-'] || c.rest.take 3 == ['.', '.', '.']) && isBlankOrEnd (c.peek 3)

def fail {α : Type} (c : Cursor) (problem : Problem) (activity : Option Activity := none)
    (start : Option Mark := none) : Except Error α :=
  .error (.fault { activity, start, problem, mark := c.mark })

/-- Fails unless the next character satisfies `p`. -/
def demand (c : Cursor) (p : Char → Bool) (what : String) (activity : Activity) (start : Mark) :
    Except Error Unit :=
  if p c.peek then .ok () else c.fail (.expected what (.singleton c.peek)) activity start

end Cursor

end GormModels.Yaml
