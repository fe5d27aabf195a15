import GormModels.Yaml.Fault

/-!
The nodes of a YAML document, each with its tag and the place where it starts. A node may stand within
itself; there only its anchor is held.
-/

namespace GormModels.Yaml

inductive Node
  | scalar (tag text : String) (start : Mark)
  | sequence (tag : String) (items : List Node) (start : Mark)
  | mapping (tag : String) (entries : List (Node × Node)) (start : Mark)
  /-- A node around this place, by its anchor and its start. -/
  | enclosing (anchor : String) (start : Mark)
  deriving Repr

/-- The common beginning of the tags that every document knows. -/
def coreTag (name : String) : String := "tag:yaml.org,2002:" ++ name

namespace Node

/-- The tag of a node that is itself there. -/
def tag : Node → String
  | scalar tag _ _ | sequence tag _ _ | mapping tag _ _ => tag
  | enclosing .. => ""

def start : Node → Mark
  | scalar _ _ start | sequence _ _ start | mapping _ _ start | enclosing _ start => start

/-- How a node is called in errors. -/
def kindName : Node → String
  | scalar .. => "scalar"
  | sequence .. => "sequence"
  | mapping .. => "mapping"
  | enclosing anchor _ => anchor

end Node

/-- The nodes of a document by their anchors. -/
abbrev Anchors := List (String × Node)

/-- A node itself, wherever only its anchor is held. -/
def Anchors.node (anchors : Anchors) : Node → Node
  | .enclosing anchor start => (anchors.lookup anchor).getD (.enclosing anchor start)
  | node => node

structure Document where
  root : Node
  anchors : Anchors
  deriving Repr

end GormModels.Yaml
