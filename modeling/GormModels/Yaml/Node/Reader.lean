import GormModels.Yaml.Node
import GormModels.Yaml.Scalar
import GormModels.Yaml.Token

/-!
The document that tokens make. Aliases are replaced by the nodes that they name, except within these.
-/

namespace GormModels.Yaml

/-- What is known of an anchor: where its node starts, and the node once it is complete. -/
structure Anchored where
  start : Mark
  node : Option Node

/-- The tokens still to be read, the error behind them, and the names that are known. -/
structure ReadState where
  tokens : List Token
  failure : Option Error
  handles : List (String × String) := []
  anchors : List (String × Anchored) := []
  /-- How many collections are open. -/
  depth : Nat := 0

abbrev NodeReader := StateT ReadState (Except Error)

namespace NodeReader

def peek : NodeReader Token := do
  let s ← get
  match s.tokens, s.failure with
  | token :: _, _ => return token
  | [], some e => throw e
  | [], none => return ⟨.textEnd, ⟨0, 0⟩, ⟨0, 0⟩⟩

def next : NodeReader Token := do
  let token ← peek
  modify fun s => { s with tokens := s.tokens.drop 1 }
  return token

/-- Whether the next token is one of some kinds. -/
def isNext (kinds : List TokenKind) : NodeReader Bool := return kinds.contains (← peek).kind

def fail {α : Type} (mark : Mark) (problem : Problem) (activity : Option Activity := none)
    (start : Option Mark := none) : NodeReader α :=
  throw (.fault { activity, start, problem, mark })

/-- Fails because the next token is not what is needed. -/
def refuse {α : Type} (problem : String → Problem) (what : String) (start : Mark) : NodeReader α := do
  let token ← peek
  fail token.start (problem token.kind.name) (some (.parsing what)) start

/-- How deep collections may lie in one another: each takes two calls, of which a process is allowed a thousand, and
twenty-four are open around the reading. -/
def maxDepth : Nat := (1000 - 24) / 2

/-- Reads the content of a collection. -/
def within {α : Type} (content : NodeReader α) : NodeReader α := do
  let depth := (← get).depth
  if maxDepth ≤ depth then throw .tooDeep
  modify fun s => { s with depth := depth + 1 }
  let x ← content
  modify fun s => { s with depth }
  return x

end NodeReader

open NodeReader

/-- The node that stands where nothing is written. -/
def emptyNode (start : Mark) : Node := .scalar (coreTag "null") "" start

/-- The handles that need no directive. -/
def coreHandles : List (String × String) := [("!", "!"), ("!!", coreTag "")]

/-- Anchor and tag before a node, in either order, each with its place. -/
structure Properties where
  start : Option Mark := none
  anchor : Option String := none
  tag : Option (Option String × String) := none
  tagStart : Option Mark := none

def readAnchorToken (p : Properties) : NodeReader Properties := do
  let token ← peek
  match token.kind with
  | .anchor name =>
    let _ ← next
    return { p with start := p.start <|> some token.start, anchor := some name }
  | _ => return p

def readTagToken (p : Properties) : NodeReader Properties := do
  let token ← peek
  match token.kind with
  | .tag handle suffix =>
    let _ ← next
    return { p with
      start := p.start <|> some token.start
      tag := some (handle, suffix)
      tagStart := some token.start }
  | _ => return p

def readProperties : NodeReader Properties := do
  let p ← readAnchorToken {}
  if p.anchor.isSome then readTagToken p
  else
    let p ← readTagToken p
    if p.tag.isSome then readAnchorToken p else return p

/-- The tag with its handle replaced by what that stands for. -/
def fullTag (p : Properties) : NodeReader (Option String) :=
  match p.tag with
  | none => return none
  | some (none, suffix) => return some suffix
  | some (some handle, suffix) => do
    match (← get).handles.lookup handle with
    | some beginning => return some (beginning ++ suffix)
    | none => fail (p.tagStart.getD ⟨0, 0⟩) (.unknownHandle handle) (some (.parsing "a node")) p.start

/-- A tag that says nothing of its own leaves the node its usual one. -/
def tagOr (usual : String) (tag : Option String) : String :=
  match tag with
  | none => coreTag usual
  | some "!" => coreTag usual
  | some tag => tag

/-- The tag of a scalar. Its text decides if it is plain, and behind a tag that says nothing. -/
def scalarTag (tag : Option String) (text : String) (plain : Bool) : String :=
  let decides := plain && tag.isNone || tag == some "!"
  tagOr (if decides then Scalar.plainTag text else "str") tag

/-- Notes the anchor of a node that begins, which no other node may have. -/
def openAnchor (anchor : Option String) (start : Mark) : NodeReader Unit := do
  match anchor with
  | none => return
  | some name =>
    match (← get).anchors.lookup name with
    | some first => fail start .secondOccurrence (some (.naming name)) first.start
    | none => modify fun s => { s with anchors := (name, ⟨start, none⟩) :: s.anchors }

def closeAnchor (anchor : Option String) (node : Node) : NodeReader Unit := do
  match anchor with
  | none => return
  | some name => modify fun s => { s with anchors := (name, ⟨node.start, some node⟩) :: s.anchors }

def readAlias (name : String) (start : Mark) : NodeReader Node := do
  match (← get).anchors.lookup name with
  | some ⟨_, some node⟩ => return node
  | some ⟨start, none⟩ => return .enclosing name start
  | none => fail start (.unknownAlias name)

/-- Where a node stands decides which collections it may be. -/
inductive Setting
  | flow
  | block
  /-- Behind the key or the colon of a block mapping, where entries need no further indentation. -/
  | blockMember
  deriving DecidableEq, Repr

def Setting.isFlow : Setting → Bool
  | flow => true
  | _ => false

mutual

def readNode (fuel : Nat) (setting : Setting) : NodeReader Node := do
  match fuel with
  | 0 => return emptyNode ⟨0, 0⟩
  | fuel + 1 =>
    match (← peek).kind with
    | .aliasOf name => readAlias name (← next).start
    | _ =>
      let p ← readProperties
      let tag ← fullTag p
      let token ← peek
      let start := p.start.getD token.start
      let node ← readContent fuel setting p tag start
      closeAnchor p.anchor node
      return node

/-- A node behind its properties. -/
def readContent (fuel : Nat) (setting : Setting) (p : Properties) (tag : Option String) (start : Mark) :
    NodeReader Node := do
  match fuel with
  | 0 => return emptyNode start
  | fuel + 1 =>
    let token ← peek
    match token.kind, setting with
    | .blockEntry, .blockMember =>
      openAnchor p.anchor start
      return .sequence (tagOr "seq" tag) (← within (readIndentless fuel)) start
    | .scalar text plain, _ =>
      let _ ← next
      openAnchor p.anchor start
      return .scalar (scalarTag tag text plain) text start
    | .flowSequence, _ =>
      openAnchor p.anchor start
      let opening := (← next).start
      return .sequence (tagOr "seq" tag) (← within (readFlowItems fuel opening true)) start
    | .flowMapping, _ =>
      openAnchor p.anchor start
      let opening := (← next).start
      return .mapping (tagOr "map" tag) (← within (readFlowMembers fuel opening true)) start
    | .blockSequence, .block | .blockSequence, .blockMember =>
      openAnchor p.anchor start
      let opening := (← next).start
      return .sequence (tagOr "seq" tag) (← within (readBlockItems fuel opening)) start
    | .blockMapping, .block | .blockMapping, .blockMember =>
      openAnchor p.anchor start
      let opening := (← next).start
      return .mapping (tagOr "map" tag) (← within (readBlockMembers fuel opening)) start
    | _, _ =>
      if p.anchor.isSome || tag.isSome then
        openAnchor p.anchor start
        return .scalar (scalarTag tag "" true) "" start
      else
        let what := if setting.isFlow then "a flow node" else "a block node"
        refuse (.expected "the node content") what start

/-- The entries of a sequence that is indented no further than the mapping it stands in. -/
def readIndentless (fuel : Nat) : NodeReader (List Node) := do
  match fuel with
  | 0 => return []
  | fuel + 1 =>
    if !(← isNext [.blockEntry]) then return []
    let entry ← next
    let item ←
      if ← isNext [.blockEntry, .key, .value, .blockEnd] then pure (emptyNode entry.stop)
      else readNode fuel .block
    return item :: (← readIndentless fuel)

def readBlockItems (fuel : Nat) (opening : Mark) : NodeReader (List Node) := do
  match fuel with
  | 0 => return []
  | fuel + 1 =>
    if ← isNext [.blockEnd] then
      let _ ← next
      return []
    if !(← isNext [.blockEntry]) then refuse (.expected "<block end>") "a block collection" opening
    let entry ← next
    let item ←
      if ← isNext [.blockEntry, .blockEnd] then pure (emptyNode entry.stop)
      else readNode fuel .block
    return item :: (← readBlockItems fuel opening)

/-- What follows a key or colon token of a block mapping. -/
def readBlockMember (fuel : Nat) (token : Token) : NodeReader Node := do
  match fuel with
  | 0 => return emptyNode token.stop
  | fuel + 1 =>
    if ← isNext [.key, .value, .blockEnd] then return emptyNode token.stop
    readNode fuel .blockMember

def readBlockMembers (fuel : Nat) (opening : Mark) : NodeReader (List (Node × Node)) := do
  match fuel with
  | 0 => return []
  | fuel + 1 =>
    if ← isNext [.blockEnd] then
      let _ ← next
      return []
    if !(← isNext [.key]) then refuse (.expected "<block end>") "a block mapping" opening
    let key ← readBlockMember fuel (← next)
    let value ←
      if ← isNext [.value] then readBlockMember fuel (← next)
      else pure (emptyNode (← peek).start)
    return (key, value) :: (← readBlockMembers fuel opening)

/-- What follows a key or colon token of a flow collection, unless one of `ends` does. -/
def readFlowMember (fuel : Nat) (ends : List TokenKind) (token : Token) : NodeReader Node := do
  match fuel with
  | 0 => return emptyNode token.stop
  | fuel + 1 =>
    if ← isNext (.flowEntry :: ends) then return emptyNode token.stop
    readNode fuel .flow

/-- The value behind a key of a flow collection. -/
def readFlowValue (fuel : Nat) (ends : List TokenKind) : NodeReader Node := do
  match fuel with
  | 0 => return emptyNode ⟨0, 0⟩
  | fuel + 1 =>
    if ← isNext [.value] then readFlowMember fuel ends (← next)
    else return emptyNode (← peek).start

/-- A flow sequence, in which a key with its value is a mapping of its own. -/
def readFlowItems (fuel : Nat) (opening : Mark) (first : Bool) : NodeReader (List Node) := do
  match fuel with
  | 0 => return []
  | fuel + 1 =>
    if ← isNext [.flowSequenceEnd] then
      let _ ← next
      return []
    if !first then
      if ← isNext [.flowEntry] then
        let _ ← next
      else refuse (.expectedOneOf "',' or ']'") "a flow sequence" opening
    if ← isNext [.flowSequenceEnd] then
      let _ ← next
      return []
    let item ←
      if ← isNext [.key] then
        let token ← next
        let key ← readFlowMember fuel [.value, .flowSequenceEnd] token
        let value ← readFlowValue fuel [.flowSequenceEnd]
        pure (Node.mapping (coreTag "map") [(key, value)] token.start)
      else readNode fuel .flow
    return item :: (← readFlowItems fuel opening false)

def readFlowMembers (fuel : Nat) (opening : Mark) (first : Bool) : NodeReader (List (Node × Node)) := do
  match fuel with
  | 0 => return []
  | fuel + 1 =>
    if ← isNext [.flowMappingEnd] then
      let _ ← next
      return []
    if !first then
      if ← isNext [.flowEntry] then
        let _ ← next
      else refuse (.expectedOneOf "',' or '\x7d'") "a flow mapping" opening
    if ← isNext [.flowMappingEnd] then
      let _ ← next
      return []
    let member ←
      if ← isNext [.key] then
        let key ← readFlowMember fuel [.value, .flowMappingEnd] (← next)
        let value ← readFlowValue fuel [.flowMappingEnd]
        pure (key, value)
      else
        let key ← readNode fuel .flow
        pure (key, emptyNode (← peek).start)
    return member :: (← readFlowMembers fuel opening false)

end

/-- Reads the directives before a document; the last ones that matter are those of tag handles. -/
def readDirectives (fuel : Nat) (versioned : Bool) (handles : List (String × String)) :
    NodeReader (List (String × String)) := do
  match fuel with
  | 0 => return handles
  | fuel + 1 =>
    let token ← peek
    match token.kind with
    | .version major =>
      let _ ← next
      if versioned then fail token.start .secondVersion
      if major != 1 then fail token.start .incompatibleVersion
      readDirectives fuel true handles
    | .handle handle beginning =>
      let _ ← next
      if (handles.lookup handle).isSome then fail token.start (.secondHandle handle)
      readDirectives fuel versioned ((handle, beginning) :: handles)
    | .otherDirective =>
      let _ ← next
      readDirectives fuel versioned handles
    | _ => return handles

/-- The start of a document that is marked, with the place where its directives begin; nothing at the end of
the text. -/
def readStart (fuel : Nat) : NodeReader (Option Mark) := do
  let token ← peek
  if token.kind == .textEnd then return none
  let handles ← readDirectives fuel false []
  modify fun s => { s with handles := handles ++ coreHandles }
  let mark ← peek
  if mark.kind != .documentStart then
    fail mark.start (.expected "'<document start>'" mark.kind.name)
  let _ ← next
  return some token.start

/-- Skips the marks that end documents. -/
def skipEnds (fuel : Nat) : NodeReader Unit := do
  match fuel with
  | 0 => return
  | fuel + 1 =>
    if ← isNext [.documentEnd] then
      let _ ← next
      skipEnds fuel

/-- The root of the only document, if there is one. -/
def readDocument (fuel : Nat) : NodeReader (Option Node) := do
  let first ← peek
  let root ←
    if first.kind.isDirective || first.kind == .documentStart || first.kind == .textEnd then
      match ← readStart fuel with
      | none => return none
      | some _ =>
        let token ← peek
        if token.kind.isDirective || [.documentStart, .documentEnd, .textEnd].contains token.kind then
          pure (emptyNode token.start)
        else readNode fuel .block
    else
      modify fun s => { s with handles := coreHandles }
      readNode fuel .block
  skipEnds fuel
  match ← readStart fuel with
  | none => return some root
  | some second => fail second .secondDocument (some .single) root.start

/-- The only document that tokens make, if they make one. -/
def Document.ofTokens (tokens : List Token) (failure : Option Error) : Except Error (Option Document) := do
  let (root, state) ← (readDocument (4 * tokens.length + 8)).run { tokens, failure }
  let anchors : Anchors := state.anchors.filterMap fun (name, a) => a.node.map (name, ·)
  return root.map (⟨·, anchors⟩)

end GormModels.Yaml
