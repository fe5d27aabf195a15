import GormModels.Text.Base64
import GormModels.Yaml.Node.Reader
import GormModels.Yaml.Token.Scanner

/-!
YAML texts of one document and the values that they write.
-/

namespace GormModels.Yaml

/-! ### Merged mappings -/

/-- A key as it counts in a mapping: an equals sign is a text there. -/
def plainKey : Node → Node
  | .scalar tag text start => .scalar (if tag == coreTag "value" then coreTag "str" else tag) text start
  | key => key

mutual

/-- The entries of a mapping that it takes from others, and its own. The mappings that are `open` are being
merged already, and give only their own entries. -/
def mergeEntries (anchors : Anchors) (fuel : Nat) (opened : List Mark) (start : Mark)
    (entries : List (Node × Node)) : Except Fault (List (Node × Node) × List (Node × Node)) := do
  match fuel with
  | 0 => return ([], entries)
  | fuel + 1 =>
    let isMerge (entry : Node × Node) : Bool := entry.1.tag == coreTag "merge"
    let own := (entries.filter (!isMerge ·)).map fun (key, value) => (plainKey key, value)
    if opened.contains start then return ([], own)
    let taken ← (entries.filter isMerge).mapM fun (_, value) =>
      takenFrom anchors fuel (start :: opened) start (anchors.node value)
    return (taken.flatten, own)

/-- The entries that a mapping takes from a mapping or a list of mappings, of which the first count most. -/
def takenFrom (anchors : Anchors) (fuel : Nat) (opened : List Mark) (start : Mark) (node : Node) :
    Except Fault (List (Node × Node)) := do
  match fuel with
  | 0 => return []
  | fuel + 1 =>
    let refuse {α : Type} (what : String) (node : Node) : Except Fault α :=
      .error
        { activity := some (.constructing "a mapping")
          start := some start
          problem := .expectedNode what node.kindName
          mark := node.start }
    match node with
    | .mapping _ entries inner =>
      let (others, own) ← mergeEntries anchors fuel opened inner entries
      return others ++ own
    | .sequence _ items _ =>
      let taken ← items.mapM fun item =>
        match anchors.node item with
        | .mapping _ entries inner => do
          let (others, own) ← mergeEntries anchors fuel opened inner entries
          return others ++ own
        | item => refuse "a mapping for merging" item
      return taken.reverse.flatten
    | _ => refuse "a mapping or list of mappings for merging" node

end

/-! ### Values -/

/-- A value, or an error with its depth. The errors of a document are told level by level. -/
abbrev Leveled := Except (Nat × Error)

/-- Two values; of two errors the one less deep. -/
def both {α β : Type} (a : Leveled α) (b : Leveled β) : Leveled (α × β) :=
  match a, b with
  | .ok x, .ok y => .ok (x, y)
  | .error (m, e), .error (n, f) => .error (if n < m then (n, f) else (m, e))
  | .error e, .ok _ => .error e
  | .ok _, .error f => .error f

def all {α : Type} : List (Leveled α) → Leveled (List α)
  | [] => .ok []
  | a :: rest => (fun (x, xs) => x :: xs) <$> both a (all rest)

def failAt {α : Type} (level : Nat) (fault : Fault) : Leveled α := .error (level, .fault fault)

/-- The text of a scalar. A mapping may have one under an equals sign; `seen` are the mappings where it was
looked for. -/
def scalarText (anchors : Anchors) (level fuel : Nat) (seen : List Mark) (node : Node) : Leveled String :=
  let misplaced : Leveled String :=
    failAt level { problem := .expectedNode "a scalar node" node.kindName, mark := node.start }
  match fuel, node with
  | _, .scalar _ text _ => .ok text
  | fuel + 1, .mapping _ entries start =>
    if seen.contains start then .error (level, .misfit .endless)
    else match entries.find? fun (key, _) => key.tag == coreTag "value" with
    | some (_, value) => scalarText anchors level fuel (start :: seen) (anchors.node value)
    | none => misplaced
  | _, _ => misplaced

def fits {α : Type} (level : Nat) (r : Except Misfit α) : Leveled α :=
  r.mapError fun misfit => (level, .misfit misfit)

/-- How the characters are told that have no place in ASCII, of which there is one at least. -/
def notAsciiText (s : List Char) : String :=
  let position := (s.takeWhile fun c => c.toNat < 128).length
  let run := (s.drop position).takeWhile fun c => c.toNat ≥ 128
  let code := (run.head?.getD ' ').toNat
  let shown :=
    if code < 0x100 then "\\x" ++ Value.hexDigits 2 code
    else if code < 0x10000 then "\\u" ++ Value.hexDigits 4 code
    else "\\U" ++ Value.hexDigits 8 code
  let place :=
    if run.length == 1 then "character '" ++ shown ++ "' in position " ++ toString position
    else "characters in position " ++ toString position ++ "-" ++ toString (position + run.length - 1)
  "'ascii' codec can't encode " ++ place ++ ": ordinal not in range(128)"

def binary (level : Nat) (start : Mark) (text : String) : Leveled Value :=
  let s := text.toList
  if s.any fun c => c.toNat ≥ 128 then
    failAt level { problem := .notAscii (notAsciiText s), mark := start }
  else match Text.Base64.decode s with
    | .ok bytes => .ok (.bytes bytes)
    | .error fault => failAt level { problem := .notBase64 fault.message, mark := start }

/-- The names of the tags of collections, whose values are no keys. -/
def collectionNames : List String := ["seq", "map", "set", "omap", "pairs"]

/-- The name that a tag has among the core ones. -/
def coreName (tag : String) : String :=
  let beginning := (coreTag "").toList
  if beginning.isPrefixOf tag.toList then .ofList (tag.toList.drop beginning.length) else ""

/-- The value of a scalar whose tag has a name. -/
def scalarValue (anchors : Anchors) (level fuel : Nat) (name : String) (node : Node) : Leveled Value := do
  let text ← scalarText anchors level fuel [] node
  match name with
  | "null" => return .null
  | "bool" => return .bool (← fits level (Scalar.readBool text))
  | "int" => return .int (← fits level (Scalar.readInt text))
  | "float" => return .float (← fits level (Scalar.readFloat text))
  | "timestamp" =>
    match node with
    | .scalar .. => fits level (Scalar.readMoment text)
    | _ => fits level (.error .innerMoment)
  | "binary" => binary level node.start text
  | _ => return .text text

/-- The names of the tags of scalars. -/
def scalarNames : List String := ["null", "bool", "int", "float", "binary", "timestamp", "str"]

/-- The one entry of a node within an ordered map or a list of pairs. -/
def soleEntry (level : Nat) (what : String) (start : Mark) (node : Node) : Leveled (Node × Node) :=
  let fail (problem : Problem) : Leveled (Node × Node) :=
    failAt level
      { activity := some (.constructing what), start := some start, problem, mark := node.start }
  match node with
  | .mapping _ [entry] _ => .ok entry
  | .mapping _ entries _ => fail (.notOneEntry entries.length)
  | _ => fail (.expectedNode "a mapping of length 1" node.kindName)

mutual

/-- The value of a node at a depth. The content of a collection lies one level deeper. A collection that
starts at one of the places in `outside` is around the node, and is not shown again. -/
def Node.value (anchors : Anchors) (fuel level : Nat) (outside : List Mark) (node : Node) : Leveled Value :=
  match fuel with
  | 0 => .ok .null
  | fuel + 1 =>
    let node := anchors.node node
    let name := coreName node.tag
    if scalarNames.contains name then scalarValue anchors level fuel name node
    else if !collectionNames.contains name then
      failAt level { problem := .unknownTag node.tag, mark := node.start }
    else if outside.contains node.start then .ok (if name == "map" then .outerMap else .outerList)
    else
      -- Every entry of a document is shown from itself on.
      let outside := if level = 0 then [] else node.start :: outside
      let level := level + 1
      let misplaced (what : String) : Leveled Value :=
        failAt level { problem := .expectedNode what node.kindName, mark := node.start }
      match name, node with
      | "seq", .sequence _ items _ => .list <$> all (items.map (Node.value anchors fuel level outside))
      | "seq", _ => misplaced "a sequence node"
      | "map", .mapping _ entries start => .map <$> mappingValue anchors fuel level outside start entries
      | "map", _ => misplaced "a mapping node"
      | "set", .mapping _ entries start =>
        (fun members => .set (members.map (·.1))) <$> mappingValue anchors fuel level outside start entries
      | "set", _ => misplaced "a mapping node"
      | _, .sequence _ items start =>
        let what := if name == "omap" then "an ordered map" else "pairs"
        .list <$> all (items.map fun item => do
          let (key, value) ← soleEntry level what start (anchors.node item)
          (fun (k, v) => .pair k v) <$>
            both (Node.value anchors fuel level outside key) (Node.value anchors fuel level outside value))
      | _, _ =>
        failAt level
          { activity := some (.constructing (if name == "omap" then "an ordered map" else "pairs"))
            start := some node.start
            problem := .expectedNode "a sequence" node.kindName
            mark := node.start }

/-- The entries of a mapping; of those with one key the last counts. -/
def mappingValue (anchors : Anchors) (fuel level : Nat) (outside : List Mark) (start : Mark)
    (entries : List (Node × Node)) : Leveled (List (Value × Value)) :=
  match fuel with
  | 0 => .ok []
  | fuel + 1 =>
    match mergeEntries anchors fuel [] start entries with
    | .error fault => failAt level fault
    | .ok (others, own) =>
      let key (node : Node) : Leveled Value :=
        if collectionNames.contains (coreName (anchors.node node).tag) then
          failAt level
            { activity := some (.constructing "a mapping")
              start := some start
              problem := .unhashableKey
              mark := node.start }
        else node.value anchors fuel level outside
      let values := (others ++ own).map fun (k, v) => both (key k) (v.value anchors fuel level outside)
      (fun pairs => pairs.foldl (fun found (k, v) => Value.insert k v found) []) <$> all values

end

/-! ### Texts -/

/-- The characters that may stand in a text. -/
def isAcceptable (c : Char) : Bool :=
  let n := c.toNat
  n == 9 || n == 10 || n == 13 || 0x20 ≤ n && n ≤ 0x7E || n == 0x85 || 0xA0 ≤ n && n ≤ 0xD7FF ||
    0xE000 ≤ n && n ≤ 0xFFFD || 0x10000 ≤ n

/-- The value of a text; one without a document has the null value. -/
def read (text : String) : Except Error Value := do
  let s := text.toList
  match s.find? (!isAcceptable ·) with
  | some c => .error (.unacceptable c.toNat (s.takeWhile isAcceptable).length)
  | none =>
    let (tokens, failure) := tokensOf s
    match ← Document.ofTokens tokens failure with
    | none => return .null
    | some ⟨root, anchors⟩ =>
      let fuel := (2 * tokens.length + 4) * (anchors.length + 2)
      (root.value anchors fuel 0 []).mapError (·.2)

/-- The value of a file, the whole of which is made a text first. -/
def loadBytes (path : String) (bytes : List UInt8) : Except Failure Value := do
  let chars ← (Text.Utf8.decode bytes).mapError .undecodable
  (read (.ofList (Text.unifyLineEnds chars))).mapError (·.failure path)

instance : Loader where
  load := loadBytes

end GormModels.Yaml
