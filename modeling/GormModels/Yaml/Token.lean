import GormModels.Yaml.Fault

/-!
The tokens of a YAML text.
-/

namespace GormModels.Yaml

inductive TokenKind
  | version (major : Nat)
  | handle (handle beginning : String)
  | otherDirective
  | documentStart
  | documentEnd
  | blockSequence
  | blockMapping
  | blockEnd
  | flowSequence
  | flowSequenceEnd
  | flowMapping
  | flowMappingEnd
  | key
  | value
  | blockEntry
  | flowEntry
  | aliasOf (anchor : String)
  | anchor (anchor : String)
  | tag (handle : Option String) (suffix : String)
  | scalar (text : String) (plain : Bool)
  | textEnd
  deriving DecidableEq, Repr

namespace TokenKind

/-- How a token is called in errors. -/
def name : TokenKind → String
  | version _ | handle _ _ | otherDirective => "<directive>"
  | documentStart => "<document start>"
  | documentEnd => "<document end>"
  | blockSequence => "<block sequence start>"
  | blockMapping => "<block mapping start>"
  | blockEnd => "<block end>"
  | flowSequence => "["
  | flowSequenceEnd => "]"
  | flowMapping => "\x7b"
  | flowMappingEnd => "\x7d"
  | key => "?"
  | value => ":"
  | blockEntry => "-"
  | flowEntry => ","
  | aliasOf _ => "<alias>"
  | anchor _ => "<anchor>"
  | tag _ _ => "<tag>"
  | scalar _ _ => "<scalar>"
  | textEnd => "<stream end>"

def isDirective : TokenKind → Bool
  | version _ | handle _ _ | otherDirective => true
  | _ => false

end TokenKind

structure Token where
  kind : TokenKind
  start : Mark
  stop : Mark
  deriving DecidableEq, Repr

end GormModels.Yaml
