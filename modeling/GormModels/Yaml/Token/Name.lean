import GormModels.Text.Hex
import GormModels.Text.Utf8
import GormModels.Yaml.Cursor
import GormModels.Yaml.Token

/-!
Reading what is named: anchors, tags and directives. Each reading starts at its indicator and returns the
token with the cursor behind it.
-/

namespace GormModels.Yaml

open Cursor

/-- The characters of an address besides letters and digits. -/
def uriSigns : List Char := "-;/?:@&=+$,_.!~*'()[]".toList

def isUriChar (c : Char) : Bool := c.isAlphanum || uriSigns.contains c

/-- The bytes that are written by escapes at the start. -/
def uriBytes (fuel : Nat) (what : String) (start : Mark) (c : Cursor) :
    Except Error (List UInt8 × Cursor) :=
  match fuel with
  | 0 => .ok ([], c)
  | fuel + 1 =>
    if c.peek != '%' then .ok ([], c)
    else
      let c := c.advance 1
      let wanted := "URI escape sequence of 2 hexadecimal numbers"
      match Text.hexValue? c.peek, Text.hexValue? (c.peek 1) with
      | some high, some low => do
        let (more, c) ← uriBytes fuel what start (c.advance 2)
        return (.ofNat (16 * high + low) :: more, c)
      | some _, none => c.fail (.expected wanted (.singleton (c.peek 1))) (some (.scanning what)) start
      | none, _ => c.fail (.expected wanted (.singleton c.peek)) (some (.scanning what)) start

/-- The characters that are written by escapes at the start. -/
def uriEscapes (what : String) (start : Mark) (c : Cursor) : Except Error (List Char × Cursor) := do
  let (bytes, behind) ← uriBytes (c.rest.length + 1) what start c
  match Text.Utf8.decode bytes with
  | .ok text => return (text, behind)
  | .error fault => c.fail (.undecodable fault.message) (some (.scanning what)) start

def uriParts (fuel : Nat) (what : String) (start : Mark) (c : Cursor) :
    Except Error (List Char × Cursor) :=
  match fuel with
  | 0 => .ok ([], c)
  | fuel + 1 => do
    let (text, c) := c.span isUriChar
    if c.peek == '%' then
      let (escaped, c) ← uriEscapes what start c
      let (more, c) ← uriParts fuel what start c
      return (text ++ escaped ++ more, c)
    else return (text, c)

def uri (what : String) (start : Mark) (c : Cursor) : Except Error (String × Cursor) := do
  c.demand (fun ch => isUriChar ch || ch == '%') "URI" (.parsing what) start
  let (text, c) ← uriParts (c.rest.length + 1) what start c
  return (.ofList text, c)

/-- The handle of a tag: a name between exclamation marks, or one mark only. -/
def tagHandle (what : String) (start : Mark) (c : Cursor) : Except Error (String × Cursor) := do
  c.demand (· == '!') "'!'" (.scanning what) start
  let c := c.advance 1
  if c.peek == ' ' then return ("!", c)
  let (name, c) := c.span isNameChar
  c.demand (· == '!') "'!'" (.scanning what) start
  return ("!" ++ .ofList name ++ "!", c.advance 1)

/-- The handle, if there is one, and the suffix of a tag. -/
def tagParts (c : Cursor) : Except Error (Option String × String × Cursor) := do
  let start := c.mark
  let next := c.peek 1
  if next == '<' then
    let (suffix, c) ← uri "a tag" start (c.advance 2)
    c.demand (· == '>') "'>'" (.parsing "a tag") start
    return (none, suffix, c.advance 1)
  if isBlankOrEnd next then return (none, "!", c.advance 1)
  let ahead := (c.rest.drop 1).takeWhile (!isSpaceOrEnd ·)
  let (handle, c) ← if ahead.contains '!' then tagHandle "a tag" start c else .ok ("!", c.advance 1)
  let (suffix, c) ← uri "a tag" start c
  return (some handle, suffix, c)

def readTag (c : Cursor) : Except Error (Token × Cursor) := do
  let start := c.mark
  let (handle, suffix, c) ← tagParts c
  c.demand isSpaceOrEnd "' '" (.scanning "a tag") start
  return (⟨.tag handle suffix, start, c.mark⟩, c)

/-- What may follow the name of an anchor. -/
def endsAnchor (c : Char) : Bool := isBlankOrEnd c || c ∈ ['?', ':', ',', ']', '\x7d', '%', '@', '\x60']

def nameWanted : String := "alphabetic or numeric character"

/-- An anchor, or an alias of one. -/
def readAnchor (kind : String → TokenKind) (what : String) (c : Cursor) :
    Except Error (Token × Cursor) := do
  let start := c.mark
  let c := c.advance 1
  c.demand isNameChar nameWanted (.scanning what) start
  let (name, c) := c.span isNameChar
  c.demand endsAnchor nameWanted (.scanning what) start
  return (⟨kind (.ofList name), start, c.mark⟩, c)

def directive : Activity := .scanning "a directive"

def versionNumber (start : Mark) (c : Cursor) : Except Error (Nat × Cursor) := do
  c.demand Char.isDigit "a digit" directive start
  let (digits, c) := c.span Char.isDigit
  return (digits.foldl (fun n d => 10 * n + (d.toNat - 48)) 0, c)

/-- The value of a version directive, of which the major number counts. -/
def versionValue (start : Mark) (c : Cursor) : Except Error (TokenKind × Cursor) := do
  let (major, c) ← versionNumber start (c.skip (· == ' '))
  c.demand (· == '.') "a digit or '.'" directive start
  let (_, c) ← versionNumber start (c.advance 1)
  c.demand isSpaceOrEnd "a digit or ' '" directive start
  return (.version major, c)

/-- The value of a directive that sets a tag handle. -/
def handleValue (start : Mark) (c : Cursor) : Except Error (TokenKind × Cursor) := do
  let (handle, c) ← tagHandle "a directive" start (c.skip (· == ' '))
  c.demand (· == ' ') "' '" directive start
  let (beginning, c) ← uri "a directive" start (c.skip (· == ' '))
  c.demand isSpaceOrEnd "' '" directive start
  return (.handle handle beginning, c)

def readDirective (c : Cursor) : Except Error (Token × Cursor) := do
  let start := c.mark
  let c := c.advance 1
  c.demand isNameChar nameWanted directive start
  let (name, c) := c.span isNameChar
  c.demand isSpaceOrEnd nameWanted directive start
  let (kind, c) ←
    if name == "YAML".toList then versionValue start c
    else if name == "TAG".toList then handleValue start c
    else .ok (.otherDirective, c.skip (!isBreakOrEnd ·))
  let stop := c.mark
  let c := (c.skip (· == ' ')).skipComment
  c.demand isBreakOrEnd "a comment or a line break" directive start
  return (⟨kind, start, stop⟩, c.lineBreak.2)

end GormModels.Yaml
