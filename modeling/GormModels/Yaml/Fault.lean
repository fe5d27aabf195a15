import GormModels.Value.Display
import GormModels.Yaml.Loader

/-!
What can be wrong with a YAML text, where, and how it is told.
-/

namespace GormModels.Yaml

/-- A place in a text: line and column, counted from zero. -/
structure Mark where
  line : Nat
  column : Nat
  deriving DecidableEq, Repr

def Mark.text (source : String) (m : Mark) : String :=
  "  in \"" ++ source ++ "\", line " ++ toString (m.line + 1) ++ ", column " ++ toString (m.column + 1)

/-- What was going on when a problem was met. -/
inductive Activity
  | scanning (what : String)
  | parsing (what : String)
  | constructing (what : String)
  /-- Nothing but the first of two nodes of one name. -/
  | naming (anchor : String)
  /-- Reading the only document of a text. -/
  | single
  deriving DecidableEq, Repr

def Activity.message : Activity → String
  | scanning what => "while scanning " ++ what
  | parsing what => "while parsing " ++ what
  | constructing what => "while constructing " ++ what
  | naming anchor => "found duplicate anchor " ++ Value.showText anchor ++ "; first occurrence"
  | single => "expected a single document in the stream"

inductive Problem
  /-- Something else stands where one thing is needed. -/
  | expected (what found : String)
  | expectedOneOf (what found : String)
  | expectedNode (what found : String)
  | expectedEscape (digits : Nat) (found : Char)
  | unknownEscape (c : Char)
  | undecodable (fault : String)
  | unstartable (c : Char)
  | zeroIndentation
  | endOfText
  | documentSeparator
  | missingColon
  | entryNotAllowed
  | keyNotAllowed
  | valueNotAllowed
  | secondVersion
  | incompatibleVersion
  | secondHandle (handle : String)
  | unknownHandle (handle : String)
  | unknownAlias (anchor : String)
  | secondOccurrence
  | secondDocument
  | unknownTag (tag : String)
  | unhashableKey
  | notOneEntry (count : Nat)
  | notBase64 (fault : String)
  | notAscii (fault : String)
  deriving DecidableEq, Repr

def showChar (c : Char) : String := Value.showText (.singleton c)

def Problem.message : Problem → String
  | expected what found => "expected " ++ what ++ ", but found " ++ Value.showText found
  | expectedOneOf what found => "expected " ++ what ++ ", but got " ++ Value.showText found
  | expectedNode what found => "expected " ++ what ++ ", but found " ++ found
  | expectedEscape digits found =>
    "expected escape sequence of " ++ toString digits ++ " hexadecimal numbers, but found " ++
      showChar found
  | unknownEscape c => "found unknown escape character " ++ showChar c
  | undecodable fault => fault
  | unstartable c => "found character " ++ showChar c ++ " that cannot start any token"
  | zeroIndentation => "expected indentation indicator in the range 1-9, but found 0"
  | endOfText => "found unexpected end of stream"
  | documentSeparator => "found unexpected document separator"
  | missingColon => "could not find expected ':'"
  | entryNotAllowed => "sequence entries are not allowed here"
  | keyNotAllowed => "mapping keys are not allowed here"
  | valueNotAllowed => "mapping values are not allowed here"
  | secondVersion => "found duplicate YAML directive"
  | incompatibleVersion => "found incompatible YAML document (version 1.* is required)"
  | secondHandle handle => "duplicate tag handle " ++ Value.showText handle
  | unknownHandle handle => "found undefined tag handle " ++ Value.showText handle
  | unknownAlias anchor => "found undefined alias " ++ Value.showText anchor
  | secondOccurrence => "second occurrence"
  | secondDocument => "but found another document"
  | unknownTag tag => "could not determine a constructor for the tag " ++ Value.showText tag
  | unhashableKey => "found unhashable key"
  | notOneEntry count => "expected a single mapping item, but found " ++ toString count ++ " items"
  | notBase64 fault => "failed to decode base64 data: " ++ fault
  | notAscii fault => "failed to convert base64 data into ascii: " ++ fault

/-- A problem at a place, with what was going on and where that began. -/
structure Fault where
  activity : Option Activity := none
  start : Option Mark := none
  problem : Problem
  mark : Mark
  deriving DecidableEq, Repr

/-- The place where something began is left out if the problem is there. -/
def Fault.message (source : String) (f : Fault) : String :=
  let activity := (f.activity.map Activity.message).toList
  let start := ((f.start.filter (· != f.mark)).map (·.text source)).toList
  "\n".intercalate (activity ++ start ++ [f.problem.message, f.mark.text source])

inductive Error
  | fault (fault : Fault)
  | unacceptable (code position : Nat)
  /-- Collections in one another without end, or nearly so. -/
  | tooDeep
  | misfit (misfit : Misfit)
  deriving DecidableEq, Repr

/-- What an error of a text from a source tells. -/
def Error.failure (source : String) : Error → Failure
  | fault f => .malformed (f.message source)
  | unacceptable code position =>
    .malformed ("unacceptable character #x" ++ Value.hexDigits 4 code ++
      ": special characters are not allowed\n  in \"" ++ source ++ "\", position " ++ toString position)
  | tooDeep => .tooDeep
  | misfit m => .misfit m

end GormModels.Yaml
