import GormModels.Sql.Statement
import GormModels.Sql.Token

/-!
The dialect that SQL text is read in. It gives the tokens of a text and the statements, and it is all that is known
of the text.
-/

namespace GormModels.Sql

/-- What a parser tells of one error: what is wrong, where, and the text before that place, at it and behind it. -/
structure ErrorDetail where
  description : String := ""
  line : Option Nat := none
  column : Option Nat := none
  before : String := ""
  found : String := ""
  behind : String := ""
  deriving DecidableEq, Repr

/-- Why a text has no statements: it has no tokens, it does not follow the grammar, or the parser fails with an error
that it does not promise. -/
inductive ParseFailure
  | token (text : String)
  | grammar (text : String) (details : List ErrorDetail)
  | other
  deriving DecidableEq, Repr

class Dialect where
  /-- The tokens of a text, or what is told where it cannot be cut into tokens. -/
  tokenize : String → Except String (List PlacedToken)
  /-- The statements of a text in their order: what stands between two semicolons is one, if anything does. -/
  parse : String → Except ParseFailure (List Statement)
  /-- The statements of a text that the parser warns of as it keeps them as commands. -/
  warnings : String → List String

end GormModels.Sql
