import TablePackage.Yaml.Meaning
import TablePackage.Yaml.Merge

/-!
# From nodes to values

A scalar has its value at once. A collection is known by the number of its node at first, and
what it has is found later, when all collections that were met before it are done: so a
collection may have itself as an item, and of several faults that of the outer collection is
told first.

* `Construction.construct`: what a document consists of.
* `Construction.valueOf`: this as a value, in which a collection ends where it comes back inside
  itself.
-/

namespace TablePackage.Yaml

/-- An item of a collection: a scalar with its value, or another collection. -/
inductive Part
  | scalar (v : Value)
  | collection (n : NodeId)

/-- What a collection has. -/
inductive Collection
  | list (items : List Part)
  | pairs (items : List (Part × Part))
  | map (entries : List (Value × Part))
  | set (items : List Value)

/-- What is known of the values of a document: for each node the item that it stands for, for
    each collection that is done what it has, and the collections in the order in which they
    were met. -/
structure Construction where
  nodes : Nodes
  parts : Array (Option Part)
  collections : Array (Option Collection)
  met : Array NodeId := #[]

namespace Construction

/-- A step of a construction. -/
abbrev Step := StateT Construction (Except Fault)

/-- Ends a construction. -/
def fail {α : Type} (fault : Fault) : Step α := throw fault

/-- The content of a node. -/
def contentOf (n : NodeId) : Step Content := return (← get).nodes.content n

/-! ## Scalars -/

/-- The text of a scalar. A mapping with a key `=` has the text of that key's value. A chain of
    more mappings than there are nodes never ends. -/
def textFrom (nodes : Nodes) : Nat → NodeId → Except Fault CodePoints
  | 0, _ => .error (.scalar .endless)
  | fuel + 1, n =>
    match nodes.content n with
    | .scalar s => .ok s
    | .mapping entries =>
      match entries.find? fun (k, _) => nodes.tag k = .defaultKey with
      | some (_, v) => textFrom nodes fuel v
      | none => .error .unconstructible
    | .sequence _ => .error .unconstructible

/-- The value of a node that is to be a scalar. -/
def scalarOf (nodes : Nodes) (n : NodeId) : Except Fault Value := do
  let text := textFrom nodes (nodes.size + 1) n
  match nodes.tag n with
  | .null =>
    let _ ← text
    return .null
  | .bool => return .bool (← boolOf (← text))
  | .int => return .int (← intOf (← text))
  -- The number of the node tells numbers apart that are none.
  | .float => return .float (← floatOf (n + 1) (← text))
  | .timestamp =>
    let s ← text
    match nodes.content n with
    | .scalar _ => timestampOf s
    | _ => throw (.scalar .timestampOfMapping)
  | .binary => return .bytes (← bytesOf (← text))
  | .str => return .ofPoints (← text)
  | .seq | .map | .set | .pairs | .mergeKey | .defaultKey | .other => throw .unconstructible

/-! ## Collections -/

/-- Whether the nodes of a kind are collections. -/
def isCollection : Tag → Bool
  | .seq | .map | .set | .pairs => true
  | _ => false

/-- The item that a node stands for. -/
def partOf (n : NodeId) : Step Part := do
  let c ← get
  match c.parts[n]? with
  | some (some part) => return part
  | _ =>
    let isNew := isCollection (c.nodes.tag n)
    let part ← if isNew then pure (.collection n) else .scalar <$> scalarOf c.nodes n
    set { c with
      parts := c.parts.modify n fun _ => some part
      met := if isNew then c.met.push n else c.met }
    return part

/-- The entries of a mapping. Of equal keys the last one counts. -/
def entriesOf (n : NodeId) : Step (List (Value × Part)) := do
  match ← contentOf n with
  | .mapping _ =>
    let nodes ← (← get).nodes.merge n
    modify ({ · with nodes })
    let put (known : List (Value × Part)) (e : Entry) : Step (List (Value × Part)) := do
      match ← partOf e.1 with
      | .scalar key => return Value.putEntry key (← partOf e.2) known
      | .collection _ => fail .unusableKey
    (nodes.entries n).foldlM put []
  | _ => fail .unconstructible

/-- The pairs of a sequence, each written as a mapping with one entry. -/
def pairsOf (n : NodeId) : Step (List (Part × Part)) := do
  match ← contentOf n with
  | .sequence items =>
    items.mapM fun item => do
      match ← contentOf item with
      | .mapping [(k, v)] => return (← partOf k, ← partOf v)
      | _ => fail .unconstructible
  | _ => fail .unconstructible

/-- What a collection has. -/
def collectionOf (n : NodeId) : Step Collection := do
  match (← get).nodes.tag n with
  | .map => return .map (← entriesOf n)
  | .set => return .set ((← entriesOf n).map (·.1))
  | .pairs => return .pairs (← pairsOf n)
  | _ =>
    match ← contentOf n with
    | .sequence items => return .list (← items.mapM partOf)
    | _ => fail .unconstructible

/-- Finds out what collections have that are met, from a number on, in the order in which they
    are met. Each node is met once at most. -/
def finish : Nat → Nat → Step Unit
  | 0, _ => return
  | fuel + 1, i => do
    match (← get).met[i]? with
    | none => return
    | some n =>
      let collection ← collectionOf n
      modify fun c => { c with collections := c.collections.modify n fun _ => some collection }
      finish fuel (i + 1)

/-- The item that the root of a document stands for, and what the collections have. -/
def construct (nodes : Nodes) (root : NodeId) :
    Except Fault (Part × Array (Option Collection)) := do
  let unknown {α : Type} : Array (Option α) := Array.replicate nodes.size none
  let start : Construction := { nodes, parts := unknown, collections := unknown }
  let all : Step Part := do
    let part ← partOf root
    finish (nodes.size + 1) 0
    return part
  let (part, c) ← all.run start
  return (part, c.collections)

/-! ## Values -/

/-- The values of collections that are known already. -/
abbrev Known := Array (Option Value)

/-- The value of an item inside the collections `path`, and whether one of them comes back in it.
    A collection that is not inside itself always has the same value, which is kept. -/
def unfold (collections : Array (Option Collection)) :
    Nat → List NodeId → Part → StateM Known (Value × Bool)
  | _, _, .scalar v => return (v, false)
  | 0, _, .collection _ => return (.null, true)
  | fuel + 1, path, .collection n => do
    let collection := (collections[n]?.getD none).getD (.list [])
    if n ∈ path then
      match collection with
      | .map _ => return (.again true, true)
      | _ => return (.again false, true)
    if let some (some v) := (← get)[n]? then return (v, false)
    let inside := unfold collections fuel (n :: path)
    let (v, comesBack) : Value × Bool ←
      match collection with
      | .list items => do
        let found ← items.mapM inside
        pure (.list (found.map (·.1)), found.any (·.2))
      | .pairs items => do
        let found ← items.mapM fun (a, b) => do
          let (a, x) ← inside a
          let (b, y) ← inside b
          pure (Value.pair a b, x || y)
        pure (.list (found.map (·.1)), found.any (·.2))
      | .map entries => do
        let found ← entries.mapM fun (k, p) => do
          let (v, x) ← inside p
          pure ((k, v), x)
        pure (.map (found.map (·.1)), found.any (·.2))
      | .set items => pure (.set items, false)
    if !comesBack then modify (·.modify n fun _ => some v)
    return (v, comesBack)

/-- The value of an item. In it, each entry of the outermost maps has the value that it has by
    itself, for as many levels of maps as are given. -/
def valueOf (collections : Array (Option Collection)) : Nat → Part → StateM Known Value
  | 0, p => return (← unfold collections (collections.size + 1) [] p).1
  | levels + 1, p => do
    match p with
    | .collection n =>
      match collections[n]?.getD none with
      | some (.map entries) =>
        let entries ← entries.mapM fun (k, p) => do return (k, ← valueOf collections levels p)
        return .map entries
      | _ => valueOf collections 0 p
    | _ => valueOf collections 0 p

end Construction

end TablePackage.Yaml
