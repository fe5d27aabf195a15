import GormModels.Text.CaseTable

/-!
Letter case of texts. Upper case is taken character by character; lower case looks at the context of
a capital sigma, which becomes a final sigma at the end of a word.
-/

namespace GormModels.Text

def isUpperChar (c : Char) : Bool :=
  if c.toNat < 128 then c.isUpper else upperSpans.contain c

def isLowerChar (c : Char) : Bool :=
  if c.toNat < 128 then c.isLower else lowerSpans.contain c

def isTitleChar (c : Char) : Bool :=
  if c.toNat < 128 then false else titleSpans.contain c

def isCased (c : Char) : Bool := isUpperChar c || isLowerChar c || isTitleChar c

def isCaseIgnorable (c : Char) : Bool :=
  if c.toNat < 128 then c ∈ ['\'', '.', ':', '^', '\x60'] else caseIgnorableSpans.contain c

def upperChar (c : Char) : List Char :=
  if c.toNat < 128 then [c.toUpper]
  else match upperExpansions.find? (·.1 == c.toNat) with
    | some (_, codes) => codes.map Char.ofNat
    | none => [(upperShifts.findSome? (·.move? c)).getD c]

def lowerChar (c : Char) : List Char :=
  if c.toNat < 128 then [c.toLower]
  else match lowerExpansions.find? (·.1 == c.toNat) with
    | some (_, codes) => codes.map Char.ofNat
    | none => [(lowerShifts.findSome? (·.move? c)).getD c]

def upper (s : List Char) : List Char := s.flatMap upperChar

/-- Whether the first character that is not case-ignorable is cased. -/
def meetsCased (s : List Char) : Bool :=
  (s.dropWhile isCaseIgnorable).head?.any isCased

/-- Lower case of a text that follows `before`, whose characters stand in reverse. -/
def lowerAfter (before : List Char) : List Char → List Char
  | [] => []
  | c :: rest =>
    let here :=
      if c == 'Σ' then [if meetsCased before && !meetsCased rest then 'ς' else 'σ']
      else lowerChar c
    here ++ lowerAfter (c :: before) rest

def lower (s : List Char) : List Char := lowerAfter [] s

/-- All cased characters are upper case, and there is one. -/
def isUpper (s : List Char) : Bool :=
  s.any isUpperChar && !s.any fun c => isLowerChar c || isTitleChar c

def upperText (s : String) : String := .ofList (upper s.toList)

def lowerText (s : String) : String := .ofList (lower s.toList)

end GormModels.Text
