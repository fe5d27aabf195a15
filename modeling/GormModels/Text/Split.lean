/-!
Cutting texts at a character.
-/

namespace GormModels.Text

/-- The parts of a text between one character, of which there is one more than of that character. -/
def split (sep : Char) : List Char → List (List Char)
  | [] => [[]]
  | c :: rest =>
    match split sep rest with
    | [] => [[c]]
    | part :: parts => if c == sep then [] :: part :: parts else (c :: part) :: parts

/-- What stands before and behind the first occurrence of a character; all of a text without it stands
before. -/
def splitFirst (sep : Char) (s : List Char) : List Char × List Char :=
  (s.takeWhile (· != sep), (s.dropWhile (· != sep)).drop 1)

/-- What stands before and behind the last occurrence of a character; all of a text without it stands
behind. -/
def splitLast (sep : Char) (s : List Char) : List Char × List Char :=
  let behind := (s.reverse.takeWhile (· != sep)).reverse
  (s.take (s.length - behind.length - 1), behind)

end GormModels.Text
