import GormModels.Sql.Token
import GormModels.Sql.Mysql.Token.Keyword
import GormModels.Text.Digit
import GormModels.Text.Identifier

/-!
Reading tokens from text. At each place the lexer either skips a blank or a comment or reads one token;
it stops at a quotation or comment without an end and at a numeral with foreign digits.
-/

namespace GormModels.Sql.Mysql.Lexer

open Text

/-- Where reading stopped: `unread` characters before the place one past the end of the text. -/
structure Stop where
  unread : Nat
  deriving DecidableEq, Repr

/-- One step of the lexer: `more` counts the characters after the first that the step takes. -/
inductive Step
  | skip (more : Nat)
  | token (kind : TokenKind) (text : String) (more : Nat)
  deriving Repr

/-- The characters that a backslash pair in a string stands for. -/
def escapes : List (Char × Char) :=
  [('a', '\x07'), ('b', '\x08'), ('f', '\x0c'), ('n', '\n'), ('r', '\r'), ('t', '\t'), ('v', '\x0b'),
    ('\\', '\\'), ('0', '\x00'), ('Z', '\x1a')]

/-- The characters before which a backslash stands for itself. -/
def literalAfterBackslash : List Char := ['%', '_']

/-- Puts characters before the content of a quotation and counts the `taken` ones that wrote them. -/
def before (content : List Char) (taken : Nat) :
    Except Stop (List Char × Nat) → Except Stop (List Char × Nat)
  | .ok (rest, n) => .ok (content ++ rest, n + taken)
  | .error e => .error e

/-- The content of a string up to its closing quote, and the number of characters read. Backslash pairs
are escapes, and either quote sign written twice is kept, the closing one as one. -/
def stringBody (quote : Char) : List Char → Except Stop (List Char × Nat)
  | [] => .error ⟨0⟩
  | [c] =>
    if c == '\\' then .error ⟨1⟩
    else if c == quote then .ok ([], 1) else .error ⟨1⟩
  | c :: d :: rest =>
    if c == '\\' then
      match escapes.lookup d with
      | some e => before [e] 2 (stringBody quote rest)
      | none =>
        if d ∈ literalAfterBackslash then before [c] 1 (stringBody quote (d :: rest))
        else if rest.isEmpty then .error ⟨2⟩
        else before [d] 2 (stringBody quote rest)
    else if (c == '\'' || c == '"') && d == c then
      if rest.isEmpty then .error ⟨2⟩
      else before (if c == quote then [c] else [c, d]) 2 (stringBody quote rest)
    else if c == quote then .ok ([], 1)
    else before [c] 1 (stringBody quote (d :: rest))
termination_by s => s.length
decreasing_by all_goals (simp only [List.length_cons]; omega)

/-- The content of a quotation in which only the sign itself, written twice, is special. -/
def plainBody (quote : Char) : List Char → Except Stop (List Char × Nat)
  | [] => .error ⟨0⟩
  | [c] => if c == quote then .ok ([], 1) else .error ⟨1⟩
  | c :: d :: rest =>
    if c == quote && d == quote then
      if rest.isEmpty then .error ⟨2⟩ else before [c] 2 (plainBody quote rest)
    else if c == quote then .ok ([], 1)
    else before [c] 1 (plainBody quote (d :: rest))
termination_by s => s.length

def quotation (kind : TokenKind) (opening : Nat) (body : Except Stop (List Char × Nat)) :
    Except Stop Step := do
  let (content, n) ← body
  return .token kind (.ofList content) (opening - 1 + n)

/-- Whether the digits are those of a base, single underscores between them allowed. -/
def isNumeral (base : Nat) (digits : List Char) : Bool :=
  match digits with
  | [] => false
  | c :: rest => isDigitOf c && go c rest
where
  isDigitOf (c : Char) : Bool :=
    if base == 2 then c == '0' || c == '1'
    else c.isDigit || ('a' ≤ c && c ≤ 'f') || ('A' ≤ c && c ≤ 'F')
  go (previous : Char) : List Char → Bool
    | [] => previous != '_'
    | c :: rest => (isDigitOf c || (c == '_' && previous != '_')) && go c rest

/-- A string of bits or of hexadecimal digits behind a letter and a quote. -/
def numeralString (kind : TokenKind) (base : Nat) (s : List Char) : Except Stop Step := do
  let (content, n) ← stringBody '\'' s
  if content == [] || isNumeral base content then
    return .token kind (.ofList content) (n + 1)
  else
    .error ⟨(s.drop n).length + 1⟩

/-- The number of characters up to the end of a block comment, its end included. -/
def blockEnd (close : Char × Char) : List Char → Option Nat
  | [] => none
  | [_] => none
  | c :: d :: rest =>
    if c == close.1 && d == close.2 then some 2 else (blockEnd close (d :: rest)).map (· + 1)

def blockComment (opening : Nat) (close : Char × Char) (s : List Char) : Except Stop Step :=
  match blockEnd close s with
  | some n => .ok (.skip (opening - 1 + n))
  | none => .error ⟨0⟩

/-- A comment between slashes and stars, in which a plus sign may stand behind the first star. -/
def slashComment : List Char → Except Stop Step
  | '+' :: rest => blockComment 3 ('*', '/') rest
  | s => blockComment 2 ('*', '/') s

/-- The number of characters up to the end of the line. -/
def lineLength (s : List Char) : Nat :=
  (s.takeWhile fun c => c != '\n' && c != '\r').length

/-- The number of characters that a key phrase takes at the start of a text, where every run of blanks
stands for one. -/
def phraseLength? : List Char → List Char → Option Nat
  | [], _ => some 0
  | ' ' :: phrase, c :: s =>
    if isBlank c then
      let blanks := (s.takeWhile isBlank).length
      (phraseLength? phrase (s.drop blanks)).map (· + blanks + 1)
    else none
  | p :: phrase, c :: s =>
    if upperChar c == [p] then (phraseLength? phrase s).map (· + 1) else none
  | _ :: _, [] => none

/-- A key phrase ends before a blank, a symbol or the end of the text. -/
def endsPhrase (s : List Char) : Bool :=
  match s with
  | [] => true
  | c :: _ => isBlank c || c ∈ singleSymbols

def phrase? (s : List Char) : Option (String × Nat) :=
  keyPhrases.findSome? fun phrase => do
    let n ← phraseLength? phrase.toList s
    guard (endsPhrase (s.drop n) || phrase.toList.any (· ∈ singleSymbols))
    return (phrase, n)

/-- The longest operator of several characters that the text starts with. -/
def longSymbol? (s : List Char) : Option String :=
  (longSymbols.filter fun symbol => symbol.toList.isPrefixOf s).foldl
    (fun best symbol => match best with
      | some b => if b.length < symbol.length then some symbol else best
      | none => some symbol) none

/-- The characters that continue a word. -/
def wordLength (s : List Char) : Nat :=
  (s.takeWhile fun c => !isBlank c && (c == '@' || c ∉ singleSymbols)).length

/-- The characters that continue a numeral of bits or hexadecimal digits. -/
def numeralLength (s : List Char) : Nat :=
  (s.takeWhile fun c => !isBlank c && c ∉ singleSymbols).length

/-- How far a decimal number goes: at most one point, and at most one exponent with a sign before a
digit. The second component tells whether a letter follows, so that the whole is a word. -/
def numberLength (point : Bool) (exponent : Nat) : List Char → Nat × Bool
  | [] => (0, false)
  | c :: rest =>
    if isDigit c then further (numberLength point exponent rest)
    else if c == '.' && !point then further (numberLength true exponent rest)
    else if (c == '-' || c == '+') && exponent == 1 then
      match rest with
      | d :: _ => if isDigit d then further (numberLength point 2 rest) else (0, false)
      | [] => (0, false)
    else if (c == 'e' || c == 'E') && exponent == 0 then further (numberLength point 1 rest)
    else (0, isIdentifierStart c)
where
  further : Nat × Bool → Nat × Bool
    | (n, letter) => (n + 1, letter)

def number (c : Char) (s : List Char) : Step :=
  let (n, letter) := numberLength false 0 s
  let n := if letter then n + numeralLength (s.drop n) else n
  .token (if letter then .word else .number) (.ofList (c :: s.take n)) n

/-- A numeral of bits or hexadecimal digits behind a zero and a letter; one with foreign digits is a
name. -/
def prefixedNumeral (kind : TokenKind) (base : Nat) (s : List Char) : Step :=
  let n := numeralLength s
  let digits := (s.take n).drop 1
  let digits' := if digits.head? == some '_' then digits.drop 1 else digits
  if isNumeral base digits' then .token kind (.ofList digits) n
  else .token .quotedName (.ofList ('0' :: s.take n)) n

/-- A number, or a numeral in another base behind a zero and the letter of that base. -/
def numeral (c : Char) (s : List Char) : Step :=
  match c, s with
  | '0', d :: _ =>
    if d == 'b' || d == 'B' then prefixedNumeral .bits 2 s
    else if d == 'x' || d == 'X' then prefixedNumeral .hex 16 s
    else number c s
  | _, _ => number c s

def word (c : Char) (s : List Char) : Step :=
  match phrase? (c :: s) with
  | some (phrase, n) => .token .word phrase (n - 1)
  | none =>
    let n := wordLength s
    .token .word (.ofList (c :: s.take n)) n

def symbol (c : Char) (s : List Char) : Step :=
  match longSymbol? (c :: s) with
  | some symbol => .token .symbol symbol (symbol.length - 1)
  | none => .token .symbol (.singleton c) 0

/-- A line comment starts with a number sign or with two hyphens and a blank. -/
def startsLineComment (c : Char) (s : List Char) : Bool :=
  match c, s with
  | '#', d :: _ => d != '>'
  | '#', [] => true
  | '-', '-' :: d :: _ => isBlank d
  | _, _ => false

/-- The quotations and comments that are told by their first two characters. -/
def opening? (c : Char) : List Char → Option (Except Stop Step)
  | [] => none
  | d :: s =>
    match c, d with
    | '/', '*' => some (slashComment s)
    | '\x7b', '#' => some (blockComment 2 ('#', '\x7d') s)
    | 'b', '\'' => some (numeralString .bits 2 s)
    | 'B', '\'' => some (numeralString .bits 2 s)
    | 'x', '\'' => some (numeralString .hex 16 s)
    | 'X', '\'' => some (numeralString .hex 16 s)
    | 'n', '\'' => some (quotation .nationalString 2 (stringBody '\'' s))
    | 'N', '\'' => some (quotation .nationalString 2 (stringBody '\'' s))
    | 'n', '"' => some (quotation .nationalString 2 (stringBody '"' s))
    | 'N', '"' => some (quotation .nationalString 2 (stringBody '"' s))
    | _, _ => none

/-- The step at the character `c` before the text `s`. -/
def step (c : Char) (s : List Char) : Except Stop Step :=
  if isBlank c then .ok (.skip 0)
  else if isDigit c then .ok (numeral c s)
  else if c == '\x60' then quotation .quotedName 1 (plainBody '\x60' s)
  else if c == '\'' || c == '"' then quotation .string 1 (stringBody c s)
  else if startsLineComment c s then .ok (.skip (lineLength s))
  else
    match opening? c s with
    | some r => r
    | none => .ok (if c ∈ singleSymbols then symbol c s else word c s)

/-- The tokens of a text that `skipped` stands before, and what follows the last of them. -/
def tokensAfter (skipped : List Char) : List Char → Except Stop (List Token × List Char)
  | [] => .ok ([], skipped)
  | c :: s =>
    match step c s with
    | .error stop => .error stop
    | .ok (.skip n) => tokensAfter (skipped ++ c :: s.take n) (s.drop n)
    | .ok (.token kind text n) =>
      match tokensAfter [] (s.drop n) with
      | .error stop => .error stop
      | .ok (tokens, tail) => .ok ({ kind, text, skipped, source := c :: s.take n } :: tokens, tail)
termination_by s => s.length
decreasing_by all_goals (simp only [List.length_cons, List.length_drop]; omega)

end GormModels.Sql.Mysql.Lexer
