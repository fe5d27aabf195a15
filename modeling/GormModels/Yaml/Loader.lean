import GormModels.Text.Utf8
import GormModels.Value

/-!
The loader that makes a value of a file in YAML.
-/

namespace GormModels.Yaml

/-- A scalar that its tag does not fit. No place is known for it. -/
inductive Misfit
  | emptyNumber
  | number (text : String)
  | word (text : String)
  | moment (text : String)
  | calendar (text : String)
  | codePoint (code : Nat)
  /-- A moment that is not a scalar of its own. -/
  | innerMoment
  /-- A text that is found nowhere but in itself. -/
  | endless
  deriving DecidableEq, Repr

/-- Why a file has no value: its bytes are no text, or the text is not YAML, which the loader tells why. It fails
with an error that it does not promise where a scalar does not fit its tag and where collections lie too deep in one
another. -/
inductive Failure
  | undecodable (fault : Text.Utf8.Fault)
  | malformed (text : String)
  | misfit (misfit : Misfit)
  | tooDeep
  deriving DecidableEq, Repr

class Loader where
  /-- The value of a file of some bytes, whose path stands in what is told. One without a document has the null
  value. -/
  load : (path : String) → List UInt8 → Except Failure Value

end GormModels.Yaml
