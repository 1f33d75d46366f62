import CodeBehind.Yaml.Literal
import CodeBehind.Yaml.Node

/-!
# Merging mappings

The pairs of a mapping with those that are merged into it.

A merge key takes over the pairs of the mapping it names, or of several, and puts them before the pairs that
are written out, so that those win. Of several mappings the first wins. The mapping that is named may have
merge keys of its own, and it may be the very mapping that the key stands in; so merging changes the graph
step by step, and a merge key is gone before what it names is looked at. With it the keys that stand for the
value of their mapping become texts like any other.

The recursion is bounded by a count. Each step takes a merge key away, so no graph exhausts a count that is
larger than the number of its pairs.

## Main definitions

* `Node.tag`, `Node.withTag`: The tag of a node.
* `splitMerge?`: The first merge key of some pairs.
* `flatten`: Merging within a graph.
-/

namespace CodeBehind

namespace Yaml

/-- The tag of a node. -/
def Node.tag : Node → String
  | .scalar tag _ => tag
  | .sequence tag _ => tag
  | .mapping tag _ => tag

/-- A node with another tag. -/
def Node.withTag (tag : String) : Node → Node
  | .scalar _ text => .scalar tag text
  | .sequence _ items => .sequence tag items
  | .mapping _ pairs => .mapping tag pairs

/-- Whether a node of a graph has a tag. -/
def hasTag (nodes : Array Node) (tag : String) (number : Nat) : Bool :=
  nodes[number]?.any fun node => node.tag == tag

/-- The value of the first merge key of some pairs, and the pairs without it. -/
def splitMerge? (nodes : Array Node) (pairs : List (Nat × Nat)) : Option (Nat × List (Nat × Nat)) :=
  (pairs.find? fun pair => hasTag nodes Kind.merge.tag pair.1).map fun pair => (pair.2, pairs.erase pair)

/-- Make a key a text if it stands for the value of its mapping. -/
def plainKey (nodes : Array Node) (pair : Nat × Nat) : Array Node :=
  if hasTag nodes Kind.value.tag pair.1 then nodes.modify pair.1 (Node.withTag Kind.text.tag) else nodes

/-- The pairs of a mapping of a graph. -/
def pairsOf (nodes : Array Node) (number : Nat) : Except Fault (List (Nat × Nat)) :=
  match nodes[number]? with
  | some (.mapping _ pairs) => .ok pairs
  | _ => .error .refused

/-- Give a mapping of a graph other pairs. -/
def putPairs (nodes : Array Node) (number : Nat) (pairs : List (Nat × Nat)) : Array Node :=
  nodes.modify number fun node => .mapping node.tag pairs

mutual

/-- A graph in which a mapping has been merged with what its merge keys name. -/
def flatten : Nat → Array Node → Nat → Except Fault (Array Node)
  | 0, _, _ => .error .refused
  | fuel + 1, nodes, number => do
    let pairs ← pairsOf nodes number
    match splitMerge? nodes pairs with
    | none => return pairs.foldl plainKey nodes
    | some (value, rest) =>
      let nodes := putPairs nodes number rest
      let sources ← match nodes[value]? with
        | some (.mapping ..) => pure [value]
        | some (.sequence _ items) => pure items
        | _ => throw .refused
      let (parts, nodes) ← flattenAll fuel nodes sources
      let nodes ← flatten fuel nodes number
      return putPairs nodes number (parts.reverse.flatten ++ (← pairsOf nodes number))

/-- The pairs of several mappings, each merged before the next one is. -/
def flattenAll : Nat → Array Node → List Nat → Except Fault (List (List (Nat × Nat)) × Array Node)
  | 0, _, _ => .error .refused
  | _ + 1, nodes, [] => .ok ([], nodes)
  | fuel + 1, nodes, source :: rest => do
    let nodes ← flatten fuel nodes source
    let pairs ← pairsOf nodes source
    let (parts, nodes) ← flattenAll fuel nodes rest
    return (pairs :: parts, nodes)

end

end Yaml

end CodeBehind
