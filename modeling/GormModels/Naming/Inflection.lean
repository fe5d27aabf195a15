import GormModels.Naming.SnakeCase
import GormModels.Text.Split

/-!
Plurals of names. Which nouns are plurals, and what the plural of another one is, is up to the language.
-/

namespace GormModels.Naming

/-- Why a text has no plural. -/
inductive Plural.PluralError
  /-- Only blanks stand where a word is needed. -/
  | noWord
  /-- The noun of a compound is not plural, as its last word is. -/
  | notPlural
  deriving DecidableEq, Repr

class Inflection where
  /-- Whether a noun is a plural. -/
  isPlural : List Char → Except Plural.PluralError Bool
  /-- The plural of a noun that is none. -/
  plural : List Char → Except Plural.PluralError (List Char)

variable [Inflection]

/-- The plural of the last part of a name in snake case, unless it is one. -/
def Plural.ofName (name : String) : Except PluralError String := do
  let (head, last) := Text.splitLast '_' name.toList
  if last.isEmpty then return name
  let plural ← if ← Inflection.isPlural last then pure last else Inflection.plural last
  return .ofList (if head.isEmpty then plural else head ++ '_' :: plural)

/-- The table that a struct of this name stands for unless it says otherwise. -/
def conventionalTable (struct : String) : Except Plural.PluralError String :=
  Plural.ofName (snakeCaseText struct)

end GormModels.Naming
