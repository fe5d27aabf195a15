import GormModels.Go.Source
import GormModels.Proofs.Text.Join
import GormModels.Text.Hex

/-!
# String literals

How the language reads its two kinds of string literals. One in quotation marks may hold escapes, which stand
for bytes; one between backticks holds no escapes, but carriage returns are no part of what it denotes. The two
escapers of this library write texts that read back as they were.
-/

namespace GormModels.Go

/-! ### Literals in quotation marks -/

def letterEscapes : List (Char × UInt8) :=
  [('a', 7), ('b', 8), ('f', 12), ('n', 10), ('r', 13), ('t', 9), ('v', 11), ('\\', 92), ('"', 34)]

def number? (base count : Nat) (s : List Char) : Option Nat :=
  if s.length < count then none
  else (s.take count).foldlM (fun n c => do
    let digit ← Text.hexValue? c
    if digit < base then some (base * n + digit) else none) 0

def charEscape? (count : Nat) (s : List Char) : Option (List UInt8 × Nat) := do
  let code ← number? 16 count s
  if code.isValidChar then some (String.utf8EncodeChar (.ofNat code), count) else none

/-- The bytes that an escape stands for, by the character behind its backslash, and the number of further
characters that are part of it. -/
def escape? (c : Char) (rest : List Char) : Option (List UInt8 × Nat) :=
  match letterEscapes.lookup c with
  | some byte => some ([byte], 0)
  | none =>
    if c = 'x' then (number? 16 2 rest).map fun n => ([.ofNat n], 2)
    else if c = 'u' then charEscape? 4 rest
    else if c = 'U' then charEscape? 8 rest
    else do
      let n ← number? 8 3 (c :: rest)
      if n < 256 then some ([.ofNat n], 2) else none

/-- The bytes of a literal behind its opening quotation mark. The closing one must end it. -/
def bodyBytes : List Char → Option (List UInt8)
  | [] => none
  | '"' :: rest => if rest = [] then some [] else none
  | '\n' :: _ => none
  | '\\' :: c :: rest => do
    let (bytes, taken) ← escape? c rest
    (bytes ++ ·) <$> bodyBytes (rest.drop taken)
  | c :: rest => (String.utf8EncodeChar c ++ ·) <$> bodyBytes rest
termination_by s => s.length
decreasing_by
  · simp only [List.length_drop, List.length_cons]
    omega
  · simp

def unquote? : List Char → Option String
  | '"' :: body => do String.fromUTF8? (← bodyBytes body).toByteArray
  | _ => none

/-- What the escaper writes for a character is read as that character. -/
def Spells (escaper : Char → List Char) : Prop :=
  ∀ c rest, bodyBytes (escaper c ++ rest) = (String.utf8EncodeChar c ++ ·) <$> bodyBytes rest

theorem bodyBytes_of_plain {c : Char} (hquote : c ≠ '"') (hnewline : c ≠ '\n') (hbackslash : c ≠ '\\')
    (rest : List Char) : bodyBytes (c :: rest) = (String.utf8EncodeChar c ++ ·) <$> bodyBytes rest := by
  rw [bodyBytes]
  · exact hquote
  · exact hnewline
  · intro _ _ heq
    exact absurd heq hbackslash

theorem bodyBytes_of_escape {c : Char} {bytes : List UInt8} (taken rest : List Char)
    (hescape : escape? c (taken ++ rest) = some (bytes, taken.length)) :
    bodyBytes ('\\' :: c :: (taken ++ rest)) = (bytes ++ ·) <$> bodyBytes rest := by
  rw [bodyBytes, hescape]
  simp

theorem number?_append (base : Nat) (digits rest : List Char) :
    number? base digits.length (digits ++ rest) = number? base digits.length digits := by
  rw [number?, number?, if_neg (by simp), if_neg (by simp), List.take_left, List.take_length]

theorem spells_escapeTagChar : Spells escapeTagChar := by
  intro c rest
  unfold escapeTagChar
  split
  · exact bodyBytes_of_escape [] rest rfl
  · exact bodyBytes_of_escape [] rest rfl
  · exact bodyBytes_of_escape ['6', '0'] rest rfl
  · exact bodyBytes_of_escape [] rest rfl
  case h_5 hbackslash hquote _ hnewline =>
      exact bodyBytes_of_plain hquote hnewline hbackslash rest

theorem number?_control : ∀ n < 32,
    number? 16 4 ['0', '0', Nat.digitChar (n / 16), Nat.digitChar (n % 16)] = some n := by
  decide

theorem spells_escape : Spells Json.escape := by
  intro c rest
  unfold Json.escape
  split
  case h_8 hquote hbackslash hnewline _ _ _ _ =>
      split
      case isTrue hcontrol =>
          let digits := ['0', '0', Nat.digitChar (c.toNat / 16), Nat.digitChar (c.toNat % 16)]
          have hnumber : number? 16 4 (digits ++ rest) = some c.toNat :=
            (number?_append 16 digits rest).trans (number?_control _ hcontrol)
          have hescape : escape? 'u' (digits ++ rest) = some (String.utf8EncodeChar c, 4) := by
            -- The letter is no escape of its own, so its four digits are read.
            change charEscape? 4 (digits ++ rest) = _
            rw [charEscape?, hnumber]
            have hvalid : c.toNat.isValidChar := c.valid
            simp [hvalid]
          exact bodyBytes_of_escape digits rest hescape
      case isFalse => exact bodyBytes_of_plain hquote hnewline hbackslash rest
  all_goals exact bodyBytes_of_escape [] rest rfl

namespace Spells

variable {escaper : Char → List Char}

theorem bodyBytes_flatMap (hspells : Spells escaper) (s : List Char) :
    bodyBytes (s.flatMap escaper ++ ['"']) = some (s.flatMap String.utf8EncodeChar) := by
  induction s with
  | nil => simp [bodyBytes]
  | cons c s ih =>
      rw [List.flatMap_cons, List.append_assoc, hspells, ih]
      rfl

theorem unquote? (hspells : Spells escaper) (text : String) :
    unquote? ('"' :: text.toList.flatMap escaper ++ ['"']) = some text := by
  rw [Go.unquote?.eq_def]
  simp only [List.cons_append, hspells.bodyBytes_flatMap, bind, Option.bind]
  have hbytes : (text.toList.flatMap String.utf8EncodeChar).toByteArray = text.toByteArray :=
    String.utf8Encode_toList
  rw [hbytes, String.fromUTF8?, dif_pos text.isValidUTF8]
  rfl

end Spells

theorem unquote?_stringLiteral (text : String) : unquote? (stringLiteral text).toList = some text := by
  rw [stringLiteral, Json.quote, String.toList_ofList]
  exact spells_escape.unquote? text

theorem unquote?_escapeTag (value : String) :
    unquote? ('"' :: (escapeTag value).toList ++ ['"']) = some value := by
  rw [escapeTag, String.toList_ofList]
  exact spells_escapeTagChar.unquote? value

/-! ### Literals between backticks -/

/-- What stands between the first two backticks of a line. -/
def rawText? (line : List Char) : Option (List Char) :=
  let behind := (line.dropWhile (· != '\x60')).drop 1
  if '\x60' ∈ behind then some (behind.takeWhile (· != '\x60')) else none

def rawValue (s : List Char) : List Char := s.filter (· != '\r')

theorem rawText?_append {before text : List Char} (hbefore : '\x60' ∉ before) (htext : '\x60' ∉ text)
    (behind : List Char) : rawText? (before ++ '\x60' :: text ++ '\x60' :: behind) = some text := by
  rw [rawText?, List.append_assoc, List.cons_append, Text.dropWhile_ne_append hbefore, List.drop_one, List.tail_cons,
    if_pos (by simp), Text.takeWhile_ne_append htext]

theorem rawValue_eq_self_iff {s : List Char} : rawValue s = s ↔ '\r' ∉ s := by
  rw [rawValue, List.filter_eq_self]
  constructor
  · intro hkept hmem
    exact absurd (hkept _ hmem) (by decide)
  · intro hmem c hc
    exact bne_iff_ne.mpr fun heq => hmem (heq ▸ hc)

theorem backtick_not_mem_escapeTagChar (c : Char) : '\x60' ∉ escapeTagChar c := by
  unfold escapeTagChar
  split
  case h_5 hbacktick _ => simpa [eq_comm] using hbacktick
  all_goals decide

theorem return_mem_escapeTagChar_iff {c : Char} : '\r' ∈ escapeTagChar c ↔ c = '\r' := by
  unfold escapeTagChar
  split
  case h_5 => simp [eq_comm]
  all_goals decide

end GormModels.Go
