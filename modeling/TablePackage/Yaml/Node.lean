import TablePackage.Yaml.Tag
import TablePackage.Yaml.Token

/-!
# Nodes

The nodes of a YAML document: scalars, sequences and mappings, each with its kind. Nodes refer
to one another by their numbers, so that an alias is the very node that its anchor names, even
inside that node.

The tokens are looked at one by one, and no further than needed, since they may end with a
fault: what is wrong earlier in the document is told first.
-/

namespace TablePackage.Yaml

/-- The number of a node in its document. -/
abbrev NodeId := Nat

/-- An entry of a mapping: its key and its value. -/
abbrev Entry := NodeId × NodeId

/-- What a node consists of. -/
inductive Content
  | scalar (s : CodePoints)
  | sequence (items : List NodeId)
  | mapping (entries : List Entry)

/-- A node of a document. -/
structure Node where
  tag : Tag
  content : Content

/-- The nodes of a document by their numbers. -/
abbrev Nodes := Array Node

namespace Nodes

/-- The kind of a node. -/
def tag (nodes : Nodes) (n : NodeId) : Tag := (nodes[n]?.map (·.tag)).getD .other

/-- What a node consists of. -/
def content (nodes : Nodes) (n : NodeId) : Content :=
  (nodes[n]?.map (·.content)).getD (.scalar [])

/-- The entries of a node, if it is a mapping. -/
def entries (nodes : Nodes) (n : NodeId) : List Entry :=
  match nodes.content n with
  | .mapping entries => entries
  | _ => []

/-- The nodes with another content of one of them. -/
def fill (nodes : Nodes) (n : NodeId) (content : Content) : Nodes :=
  nodes.modify n fun node => { node with content }

end Nodes

/-- The node of an item that is left out. -/
def Node.empty : Node := ⟨.null, .scalar []⟩

/-- What is known in the middle of a document: the tokens ahead and the fault that comes after
    them, if one does; the prefixes that tag handles stand for; the nodes so far, and those with
    anchors. -/
structure NodeState where
  tokens : List Token
  stop : Option Fault
  handles : List (Text × Text)
  nodes : Nodes := #[]
  anchors : List (Text × NodeId) := []

namespace NodeState

/-- The token ahead, if there is one. -/
def ahead (s : NodeState) : Except Fault (Option Token) :=
  match s.tokens, s.stop with
  | t :: _, _ => .ok (some t)
  | [], some fault => .error fault
  | [], none => .ok none

/-- Passes the token ahead. -/
def pass (s : NodeState) : NodeState := { s with tokens := s.tokens.tail }

/-- Whether one of some tokens is ahead. -/
def sees (ts : List Token) (s : NodeState) : Except Fault Bool :=
  return (← s.ahead).any ts.contains

/-- The token ahead, if it is a given one, is passed. -/
def accept (t : Token) (s : NodeState) : Except Fault (Option NodeState) :=
  return if ← s.sees [t] then some s.pass else none

/-- The anchor and the tag before a node, in any order. -/
def properties (s : NodeState) :
    Except Fault (Option Text × Option (Option Text × Text) × NodeState) := do
  match ← s.ahead with
  | some (.anchor a) =>
    match ← s.pass.ahead with
    | some (.tag h t) => return (some a, some (h, t), s.pass.pass)
    | _ => return (some a, none, s.pass)
  | some (.tag h t) =>
    match ← s.pass.ahead with
    | some (.anchor a) => return (some a, some (h, t), s.pass.pass)
    | _ => return (none, some (h, t), s.pass)
  | _ => return (none, none, s)

/-- The address of a tag; a lone exclamation mark is no address. -/
def address? (s : NodeState) : Option (Option Text × Text) → Except Fault (Option Text)
  | none => .ok none
  | some (none, suffix) => .ok (some suffix)
  | some (some handle, suffix) =>
    match s.handles.lookup handle with
    | some address => .ok (some (address ++ suffix))
    | none => .error .malformed

/-- Adds a node. -/
def add (n : Node) (s : NodeState) : NodeId × NodeState :=
  (s.nodes.size, { s with nodes := s.nodes.push n })

/-- Adds a node and names it by its anchor, which no other node may have. -/
def enter (anchor : Option Text) (n : Node) (s : NodeState) :
    Except Fault (NodeId × NodeState) :=
  let (id, t) := s.add n
  match anchor with
  | none => .ok (id, t)
  | some a =>
    if (s.anchors.lookup a).isSome then .error .repeatedAnchor
    else .ok (id, { t with anchors := (a, id) :: s.anchors })

/-- Adds the node of an item that is left out. -/
def addEmpty (s : NodeState) : NodeId × NodeState := s.add .empty

/-- Gives a node its content. -/
def fill (n : NodeId) (content : Content) (s : NodeState) : NodeState :=
  { s with nodes := s.nodes.fill n content }

/-- The kind of a collection. -/
def collectionTag (address : Option Text) (default : Tag) : Tag :=
  match address with
  | none | some ['!'] => default
  | some address => .ofAddress address

/-- The kind of a scalar: without a tag, a plain one has the kind of its form. -/
def scalarTag (address : Option Text) (s : CodePoints) (isPlain : Bool) : Tag :=
  match address with
  | none => if isPlain then .ofForm s.shown else .str
  | some ['!'] => .ofForm s.shown
  | some address => .ofAddress address

/-- Before an item of a flow collection: whether the collection ends here, which its token `last`
    tells. Between two items there has to be a comma. -/
def separated (last : Token) (isFirst : Bool) (s : NodeState) :
    Except Fault (Bool × NodeState) := do
  if let some s ← s.accept last then return (true, s)
  let s ←
    if isFirst then pure s
    else
      match ← s.accept .flowEntry with
      | some s => pure s
      | none => throw .unexpectedToken
  match ← s.accept last with
  | some s => return (true, s)
  | none => return (false, s)

mutual

/-- The next node. Outside flow collections it may be a block, and as the value of a key also
    a sequence that is not indented further than the key. -/
def node (fuel : Nat) (inBlock flush : Bool) (s : NodeState) :
    Except Fault (NodeId × NodeState) :=
  match fuel with
  | 0 => .error .unexpectedToken
  | fuel + 1 => do
    if let some (.alias a) ← s.ahead then
      match s.anchors.lookup a with
      | some n => return (n, s.pass)
      | none => throw .undefinedAlias
    let (anchor, tag, s) ← s.properties
    let address ← s.address? tag
    -- A collection is named before its items are read, so they may refer to it.
    let sequence : Node := ⟨collectionTag address .seq, .sequence []⟩
    let mapping : Node := ⟨collectionTag address .map, .mapping []⟩
    let next ← s.ahead
    if flush && next = some .blockEntry then
      let (n, s) ← s.enter anchor sequence
      let (items, s) ← flushItems fuel s
      return (n, s.fill n (.sequence items))
    if inBlock && next = some .blockSequence then
      let (n, s) ← s.pass.enter anchor sequence
      let (items, s) ← blockItems fuel s
      return (n, s.fill n (.sequence items))
    if inBlock && next = some .blockMapping then
      let (n, s) ← s.pass.enter anchor mapping
      let (entries, s) ← blockEntries fuel s
      return (n, s.fill n (.mapping entries))
    match next with
    | some (.scalar t isPlain) =>
      s.pass.enter anchor ⟨scalarTag address t isPlain, .scalar t⟩
    | some .flowSequence =>
      let (n, s) ← s.pass.enter anchor sequence
      let (items, s) ← flowItems fuel true s
      return (n, s.fill n (.sequence items))
    | some .flowMapping =>
      let (n, s) ← s.pass.enter anchor mapping
      let (entries, s) ← flowEntries fuel true s
      return (n, s.fill n (.mapping entries))
    | _ =>
      -- There may be nothing but an anchor or a tag.
      if anchor = none ∧ address = none then throw .unexpectedToken
      s.enter anchor ⟨scalarTag address [] true, .scalar []⟩

/-- The next node, or an empty one if one of the tokens `ends` is ahead. -/
def nodeBefore (fuel : Nat) (ends : List Token) (inBlock flush : Bool) (s : NodeState) :
    Except Fault (NodeId × NodeState) :=
  match fuel with
  | 0 => .error .unexpectedToken
  | fuel + 1 => do
    if ← s.sees ends then return s.addEmpty
    node fuel inBlock flush s

/-- The items of a block sequence. -/
def blockItems (fuel : Nat) (s : NodeState) : Except Fault (List NodeId × NodeState) :=
  match fuel with
  | 0 => .error .unexpectedToken
  | fuel + 1 => do
    match ← s.accept .blockEntry with
    | some s =>
      let (n, s) ← nodeBefore fuel [.blockEntry, .blockEnd] true false s
      let (items, s) ← blockItems fuel s
      return (n :: items, s)
    | none =>
      match ← s.accept .blockEnd with
      | some s => return ([], s)
      | none => throw .unexpectedToken

/-- The items of a block sequence that is not indented further than its key. -/
def flushItems (fuel : Nat) (s : NodeState) : Except Fault (List NodeId × NodeState) :=
  match fuel with
  | 0 => .error .unexpectedToken
  | fuel + 1 => do
    match ← s.accept .blockEntry with
    | some s =>
      let (n, s) ← nodeBefore fuel [.blockEntry, .key, .value, .blockEnd] true false s
      let (items, s) ← flushItems fuel s
      return (n :: items, s)
    | none => return ([], s)

/-- The entries of a block mapping. -/
def blockEntries (fuel : Nat) (s : NodeState) : Except Fault (List Entry × NodeState) :=
  match fuel with
  | 0 => .error .unexpectedToken
  | fuel + 1 => do
    let ends : List Token := [.key, .value, .blockEnd]
    match ← s.accept .key with
    | some s =>
      let (k, s) ← nodeBefore fuel ends true true s
      let (v, s) ←
        match ← s.accept .value with
        | some s => nodeBefore fuel ends true true s
        | none => pure s.addEmpty
      let (entries, s) ← blockEntries fuel s
      return ((k, v) :: entries, s)
    | none =>
      match ← s.accept .blockEnd with
      | some s => return ([], s)
      | none => throw .unexpectedToken

/-- An entry of a flow collection behind the mark of its key. -/
def flowEntry (fuel : Nat) (last : List Token) (s : NodeState) :
    Except Fault (Entry × NodeState) :=
  match fuel with
  | 0 => .error .unexpectedToken
  | fuel + 1 => do
    let (k, s) ← nodeBefore fuel (.value :: last) false false s
    let (v, s) ←
      match ← s.accept .value with
      | some s => nodeBefore fuel last false false s
      | none => pure s.addEmpty
    return ((k, v), s)

/-- The items of a flow sequence. A key among them makes a mapping with one entry. -/
def flowItems (fuel : Nat) (isFirst : Bool) (s : NodeState) :
    Except Fault (List NodeId × NodeState) :=
  match fuel with
  | 0 => .error .unexpectedToken
  | fuel + 1 => do
    match ← s.separated .flowSequenceEnd isFirst with
    | (true, s) => return ([], s)
    | (false, s) =>
      let (n, s) ←
        match ← s.accept .key with
        | some s => do
          let (e, s) ← flowEntry fuel [.flowEntry, .flowSequenceEnd] s
          pure (s.add ⟨.map, .mapping [e]⟩)
        | none => node fuel false false s
      let (items, s) ← flowItems fuel false s
      return (n :: items, s)

/-- The entries of a flow mapping. A node that is no key has nothing as its value. -/
def flowEntries (fuel : Nat) (isFirst : Bool) (s : NodeState) :
    Except Fault (List Entry × NodeState) :=
  match fuel with
  | 0 => .error .unexpectedToken
  | fuel + 1 => do
    match ← s.separated .flowMappingEnd isFirst with
    | (true, s) => return ([], s)
    | (false, s) =>
      let (e, s) ←
        match ← s.accept .key with
        | some s => flowEntry fuel [.flowEntry, .flowMappingEnd] s
        | none => do
          let (k, s) ← node fuel false false s
          let (v, s) := s.addEmpty
          pure ((k, v), s)
      let (entries, s) ← flowEntries fuel false s
      return (e :: entries, s)

end

/-! ## Documents -/

/-- The handles that every document knows. -/
def defaultHandles : List (Text × Text) :=
  [(['!'], ['!']), (['!', '!'], "tag:yaml.org,2002:")]

/-- Passes the directives before a document. Each handle may be given once, and so may the
    version, whose major number has to be one. -/
def directives (handles : List (Text × Text)) (hasVersion : Bool) :
    List Token → Except Fault (List (Text × Text) × List Token)
  | .version major _ :: tokens =>
    if hasVersion ∨ major ≠ 1 then .error .directive else directives handles true tokens
  | .tagDirective h address :: tokens =>
    if (handles.lookup h).isSome then .error .directive
    else directives ((h, address) :: handles) hasVersion tokens
  | .otherDirective :: tokens => directives handles hasVersion tokens
  | tokens => .ok (handles ++ defaultHandles, tokens)

/-- The tokens that a document starts with, if it does not start with its content. -/
def startsDocument : Token → Bool
  | .version .. | .tagDirective .. | .otherDirective | .documentStart => true
  | _ => false

/-- Passes the directives before a document and the mark of its start. -/
def start (s : NodeState) : Except Fault NodeState := do
  let (handles, tokens) ← directives [] false s.tokens
  match ← { s with tokens, handles }.accept .documentStart with
  | some s => return s
  | none => throw .unexpectedToken

/-- Makes sure that no other document comes. -/
def finish (s : NodeState) : Except Fault Unit := do
  let s := { s with tokens := s.tokens.dropWhile (· = Token.documentEnd) }
  if (← s.ahead).isSome then
    -- The start of the other document is still looked at.
    let _ ← s.start
    throw .severalDocuments

end NodeState

/-- The node of the only document among the tokens, if there is one, and all nodes of the
    document. Behind the tokens there may be a fault. -/
def Node.ofTokens (tokens : List Token) (stop : Option Fault) :
    Except Fault (Option (NodeId × Nodes)) := do
  let fuel := 4 * tokens.length + 4
  let s : NodeState := { tokens, stop, handles := NodeState.defaultHandles }
  match ← s.ahead with
  | none => return none
  | some t =>
    let (n, s) ←
      if NodeState.startsDocument t then do
        let s ← s.start
        match ← s.ahead with
        | none | some .documentEnd => pure s.addEmpty
        | some t =>
          if NodeState.startsDocument t then pure s.addEmpty else s.node fuel true false
      else s.node fuel true false
    s.finish
    return some (n, s.nodes)

end TablePackage.Yaml
