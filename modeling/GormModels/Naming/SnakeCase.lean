import GormModels.Naming.Word
import GormModels.Value

/-!
Snake case: small letters, with underscores where words start.
-/

namespace GormModels.Naming

open Text

/-- Puts an underscore before a capital with small letters behind it that follows any character of the
line. -/
def markCapitalized : List Char → List Char
  | a :: b :: c :: rest =>
    if a != '\n' && isCapital b && isSmall c then
      a :: '_' :: b :: (c :: rest.takeWhile isSmall) ++ markCapitalized (rest.dropWhile isSmall)
    else a :: markCapitalized (b :: c :: rest)
  | s => s
termination_by s => s.length
decreasing_by
  · have := (List.dropWhile_sublist isSmall (l := rest)).length_le
    simp only [List.length_cons]
    omega
  · simp

/-- Of two underscores before a capital one is dropped. -/
def joinUnderscores : List Char → List Char
  | '_' :: '_' :: c :: rest =>
    if isCapital c then '_' :: c :: joinUnderscores rest else '_' :: joinUnderscores ('_' :: c :: rest)
  | c :: rest => c :: joinUnderscores rest
  | [] => []
termination_by s => s.length

/-- Puts an underscore between a small letter or digit and a capital. -/
def markCapitals : List Char → List Char
  | a :: b :: rest =>
    if (isSmall a || a.isDigit) && isCapital b then a :: '_' :: markCapitals (b :: rest)
    else a :: markCapitals (b :: rest)
  | s => s

def snakeCase (s : List Char) : List Char :=
  lower (markCapitals (joinUnderscores (markCapitalized s)))

def snakeCaseText (s : String) : String := .ofList (snakeCase s.toList)

/-- A value that should be a text and is of the kind named. -/
structure NotText where
  kind : String
  deriving DecidableEq, Repr

def NotText.message (e : NotText) : String := "Expected string, got " ++ e.kind

/-- What a value that is no text is called. -/
def kindName : Value → String
  | .null => "NoneType"
  | .bool _ => "bool"
  | .int _ => "int"
  | .float _ => "float"
  | .text _ => "str"
  | .bytes _ => "bytes"
  | .date _ => "date"
  | .moment _ => "datetime"
  | .list _ | .outerList => "list"
  | .set _ => "set"
  | .pair _ _ => "tuple"
  | .map _ | .outerMap => "dict"

/-- The snake case of a value, which has to be a text. -/
def snakeCaseOf : Value → Except NotText String
  | .text s => .ok (snakeCaseText s)
  | v => .error ⟨kindName v⟩

end GormModels.Naming
