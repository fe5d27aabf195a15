import GormModels.Text.Case
import GormModels.Text.Digit

/-!
Splitting identifiers into words: at characters that are part of no word, between digits and letters, and
where letter case shows that a word starts.
-/

namespace GormModels.Naming

open Text

def isCapital (c : Char) : Bool := 'A' ≤ c && c ≤ 'Z'

def isSmall (c : Char) : Bool := 'a' ≤ c && c ≤ 'z'

/-- A character of a word that is neither an ASCII letter nor a digit. -/
def isOtherWordChar (c : Char) : Bool :=
  isWordChar c && !isDecimal c && c != '_' && !isCapital c && !isSmall c

/-- How many characters the word at the start of a text takes, none if no word starts there. Of capitals
before small letters the last one starts the next word. -/
def wordLength (s : List Char) : Nat :=
  let capitals := (s.takeWhile isCapital).length
  let smalls := ((s.drop capitals).takeWhile isSmall).length
  if smalls = 0 then
    if capitals = 0 then
      let digits := (s.takeWhile Char.isDigit).length
      if digits = 0 then (s.takeWhile isOtherWordChar).length else digits
    else capitals
  else if capitals ≤ 1 then capitals + smalls
  else capitals - 1

/-- The words of a text in order; what is part of none is left out. -/
def nameWords (s : List Char) : List (List Char) :=
  match s with
  | [] => []
  | c :: rest =>
    match wordLength (c :: rest) with
    | 0 => nameWords rest
    | n + 1 => (c :: rest.take n) :: nameWords (rest.drop n)
termination_by s.length
decreasing_by all_goals (simp; try omega)

end GormModels.Naming
