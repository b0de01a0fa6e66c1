import TablePackage.Yaml.Node

/-!
# Merged mappings

An entry with the key `<<` puts the entries of another mapping, or of several ones, in front of
those of its own mapping; since of equal keys the last entry counts, the own entries win. The
merged mapping has to be merged itself before, and it may even be the one that it is merged
into: what counts then are the entries that are left of it.
-/

namespace TablePackage.Yaml.Nodes

/-- Whether an entry is to be merged. -/
def isMerge (nodes : Nodes) (e : Entry) : Bool := nodes.tag e.1 = .mergeKey

/-- The nodes where the key `=` of an entry is a text like any other key. -/
def nameDefault (nodes : Nodes) (e : Entry) : Nodes :=
  if nodes.tag e.1 = .defaultKey then nodes.modify e.1 fun n => { n with tag := .str } else nodes

/-- Merges the entries of a mapping from its entry number `passed` on; `found` are the entries
    that go in front. Each step takes one entry to be merged away, so their number bounds the
    steps. -/
def mergeFrom : Nat → Nat → List Entry → NodeId → Nodes → Except Fault Nodes
  | 0, _, _, _, _ => .error .unconstructible
  | fuel + 1, passed, found, n, nodes => do
    let entries := nodes.entries n
    let place := passed + ((entries.drop passed).takeWhile (!nodes.isMerge ·)).length
    match entries[place]? with
    | none =>
      let entries := found ++ entries
      return entries.foldl nameDefault (nodes.fill n (.mapping entries))
    | some (_, source) =>
      let nodes := nodes.fill n (.mapping (entries.eraseIdx place))
      match nodes.content source with
      | .mapping _ =>
        let nodes ← mergeFrom fuel 0 [] source nodes
        mergeFrom fuel place (found ++ nodes.entries source) n nodes
      | .sequence sources =>
        let merge (state : List (List Entry) × Nodes) (source : NodeId) :
            Except Fault (List (List Entry) × Nodes) := do
          match state.2.content source with
          | .mapping _ =>
            let nodes ← mergeFrom fuel 0 [] source state.2
            return (nodes.entries source :: state.1, nodes)
          | _ => throw .unconstructible
        -- The entries that come last count, so the first mapping goes to the end.
        let (parts, nodes) ← sources.foldlM merge ([], nodes)
        mergeFrom fuel place (found ++ parts.flatten) n nodes
      | .scalar _ => throw .unconstructible

/-- How many entries of all mappings are to be merged. -/
def merges (nodes : Nodes) : Nat :=
  let count (node : Node) : Nat :=
    match node.content with
    | .mapping entries => entries.countP nodes.isMerge
    | _ => 0
  nodes.toList.foldl (fun total node => total + count node) 0

/-- The nodes with the entries of a mapping merged. -/
def merge (nodes : Nodes) (n : NodeId) : Except Fault Nodes :=
  let hasMerge := (nodes.entries n).any nodes.isMerge
  mergeFrom ((if hasMerge then nodes.merges else 0) + 1) 0 [] n nodes

end TablePackage.Yaml.Nodes
