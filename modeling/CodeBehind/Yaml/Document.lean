import CodeBehind.Value.Collection
import CodeBehind.Value.View
import CodeBehind.Yaml.Merge

/-!
# Documents

What a YAML text denotes.

Every tag of the standard has its own way of reading a node; there are no others. A collection is begun where
it is met and filled later, in the order in which the collections of the document were begun: what stands
further out is read before what stands further in, and a document with several faults is reported for the
outermost. Each node denotes one thing, however often it is referred to, and a collection may hold itself.

A key must not be a collection. Keys that are equal are one: the first keeps its place, and the last one's
value counts. What is not a number equals nothing, and yet all scalars that say so by its usual name denote
one thing, which is one key.

## Main definitions

* `Form`, `Thing`: The ways of reading a node, and what nodes denote.
* `begin`, `fill`: Reading a node in two steps.
* `Document`, `read`: What a text denotes.
* `Document.value`, `Document.view`: The value at a place of a document.
-/

namespace CodeBehind

namespace Yaml

/-- The ways of reading a node. -/
inductive Form where
  | null
  | truth
  | integer
  | real
  | timestamp
  | text
  | binary
  | list
  | pairs
  | collection
  | mapping
  deriving DecidableEq, Repr

/-- The tags with a way of reading. -/
def forms : List (String × Form) := [
  (Kind.null.tag, .null), (Kind.truth.tag, .truth), (Kind.integer.tag, .integer), (Kind.real.tag, .real),
  (Kind.timestamp.tag, .timestamp), (Kind.text.tag, .text), (standardTag "binary", .binary),
  (standardTag "seq", .list), (standardTag "omap", .pairs), (standardTag "pairs", .pairs),
  (standardTag "set", .collection), (standardTag "map", .mapping)]

/-- What a node denotes: a scalar, which may be what the usual name of what is not a number denotes, or a
    collection of what other nodes denote. -/
inductive Thing where
  | scalar (value : Value) (isNamedNan : Bool)
  | list (items : List Nat)
  | pairs (items : List (Nat × Nat))
  | collection (members : List Nat)
  | mapping (entries : List (Nat × Nat))
  deriving Inhabited

/-- The things that are known so far, and the collections that wait to be filled. -/
structure Progress where
  nodes : Array Node
  things : Array (Option Thing)
  waiting : List Nat := []

/-- Reading the nodes of a document. -/
abbrev Reading := StateT Progress (Except Fault)

/-- The text of a node: a mapping may hold it under the key that stands for its value. -/
def scalarText (nodes : Array Node) : Nat → Nat → Except Fault (List Point)
  | 0, _ => .error .refused
  | fuel + 1, number =>
    match nodes[number]? with
    | some (.scalar _ text) => .ok text
    | some (.mapping _ pairs) =>
      match pairs.find? fun pair => hasTag nodes Kind.value.tag pair.1 with
      | some (_, value) => scalarText nodes fuel value
      | none => .error .refused
    | _ => .error .refused

/-- The date, or the point in time, that a node denotes; it must be a scalar itself. -/
def timestampOf (node : Node) (text : String) : Except Fault Value :=
  match node with
  | .scalar .. => timestamp text
  | _ => .error (.misuse (.notText "list"))

/-- What a scalar denotes, or the collection before it is filled. Only a text can have halves of pairs in it. -/
def beginning (node : Node) (form : Form) (points : Except Fault (List Point)) : Except Fault Thing :=
  let scalar (value : Except Fault Value) : Except Fault Thing := value.map fun value => .scalar value false
  let text := points.map fun points => String.ofList (Point.shown points)
  match form with
  | .null => scalar (text.map fun _ => .null)
  | .truth => scalar (do return .truth (← truth (← text)))
  | .integer => scalar (do return .integer (← integer (← text)))
  | .real => do return .scalar (.real (← real (← text))) (isNamedNan (← text))
  | .timestamp => scalar (do timestampOf node (← text))
  | .text => scalar (points.map .ofPoints)
  | .binary => scalar (do binary (← text))
  | .list => .ok (.list [])
  | .pairs => .ok (.pairs [])
  | .collection => .ok (.collection [])
  | .mapping => .ok (.mapping [])

/-- Whether what a node denotes is a collection. -/
def Thing.isCollection : Thing → Bool
  | scalar .. => false
  | _ => true

/-- Put down what a node denotes. -/
def putThing (number : Nat) (thing : Thing) : Reading Unit :=
  modify fun progress => { progress with things := progress.things.setIfInBounds number (some thing) }

/-- Begin a node, unless that has been done; a collection then waits to be filled. -/
def begin (number : Nat) : Reading Unit := do
  let progress ← get
  match progress.nodes[number]?, progress.things[number]?.join with
  | some node, none =>
    match forms.lookup node.tag with
    | none => throw .refused
    | some form =>
      let thing ← beginning node form (scalarText progress.nodes (progress.nodes.size + 1) number)
      putThing number thing
      if thing.isCollection then modify fun progress => { progress with waiting := progress.waiting ++ [number] }
  | _, _ => return ()

/-- What a node denotes that has been begun. -/
def thingAt (number : Nat) : Reading (Option Thing) := do
  return (← get).things[number]?.join

/-- Whether two things are the same key. -/
def Thing.sameKey : Thing → Thing → Bool
  | scalar a namedA, scalar b namedB => (namedA && namedB) || Value.sameKey a b
  | _, _ => false

/-- Whether two nodes denote the same key; a node does so with itself. -/
def sameKeyAt (things : Array (Option Thing)) (a b : Nat) : Bool :=
  a == b || match things[a]?.join, things[b]?.join with
    | some a, some b => a.sameKey b
    | _, _ => false

/-- Set a key: a new one goes to the end, a known one keeps its place. -/
def setEntry (things : Array (Option Thing)) (entries : List (Nat × Nat)) (key value : Nat) : List (Nat × Nat) :=
  if entries.any fun entry => sameKeyAt things entry.1 key then
    entries.map fun entry => if sameKeyAt things entry.1 key then (entry.1, value) else entry
  else entries ++ [(key, value)]

/-- A count that merging within a graph does not exhaust. -/
def mergeBound (nodes : Array Node) : Nat :=
  let size := nodes.foldl (fun size node => size + match node with
    | .scalar .. => 1
    | .sequence _ items => 1 + items.length
    | .mapping _ pairs => 1 + pairs.length) 2
  size * size

/-- The entries of a mapping, keys before their values. -/
def entriesOf (number : Nat) : Reading (List (Nat × Nat)) := do
  let progress ← get
  let nodes ← flatten (mergeBound progress.nodes) progress.nodes number
  set { progress with nodes }
  (← pairsOf nodes number).foldlM (fun entries (key, value) => do
    begin key
    if (← thingAt key).any Thing.isCollection then throw .refused
    begin value
    return setEntry (← get).things entries key value) []

/-- The items of a sequence. -/
def itemsOf (number : Nat) : Reading (List Nat) := do
  match (← get).nodes[number]? with
  | some (.sequence _ items) => return items
  | _ => throw .refused

/-- The only pair of a mapping that has but one. -/
def onlyPair (number : Nat) : Reading (Nat × Nat) := do
  match (← get).nodes[number]? with
  | some (.mapping _ [pair]) => return pair
  | _ => throw .refused

/-- Fill a collection that was begun. -/
def fill (number : Nat) : Reading Unit := do
  match ← thingAt number with
  | some (.list _) =>
    let items ← itemsOf number
    items.forM begin
    putThing number (.list items)
  | some (.pairs _) =>
    let pairs ← (← itemsOf number).mapM fun item => do
      let (key, value) ← onlyPair item
      begin key
      begin value
      return (key, value)
    putThing number (.pairs pairs)
  | some (.collection _) => putThing number (.collection ((← entriesOf number).map (·.1)))
  | some (.mapping _) => putThing number (.mapping (← entriesOf number))
  | _ => return ()

/-- Fill the collections that wait, and those that come to wait meanwhile. -/
def fillAll : Nat → Reading Unit
  | 0 => return ()
  | fuel + 1 => do
    match (← get).waiting with
    | [] => return ()
    | number :: rest =>
      modify fun progress => { progress with waiting := rest }
      fill number
      fillAll fuel

/-- What a text denotes: the things by the number of their node, and the number of the outermost one. -/
structure Document where
  things : Array (Option Thing)
  root : Nat

/-- The document of a graph of nodes. -/
def Document.ofGraph (graph : Graph) : Except Fault Document := do
  let progress : Progress := { nodes := graph.nodes, things := Array.replicate graph.nodes.size none }
  let (_, progress) ← (do begin graph.root; fillAll (graph.nodes.size + 1)).run progress
  return { things := progress.things, root := graph.root }

/-- What a text denotes; a text without a document denotes null. -/
def read (text : List Char) : Except Fault Document := do
  match ← orRefuse (Graph.ofTokens? (← orRefuse (tokens? text))) with
  | some graph => Document.ofGraph graph
  | none => return { things := #[some (.scalar .null false)], root := 0 }

namespace Document

/-- The value at a place of a document, where `opened` are the places it stands in; places are looked at no more
    than `fuel` levels deep. -/
def valueAt (document : Document) : Nat → List Nat → Nat → Value
  | 0, _, _ => .null
  | fuel + 1, opened, number =>
    let inner := valueAt document fuel (number :: opened)
    match document.things[number]?.join with
    | none => .null
    | some (.scalar value _) => value
    | some (.collection members) => .collection (Value.shownOrder (members.map inner))
    | some (.list items) => if opened.contains number then .again false else .list (items.map inner)
    | some (.pairs items) =>
      if opened.contains number then .again false
      else .list (items.map fun (first, second) => .pair (inner first) (inner second))
    | some (.mapping entries) =>
      if opened.contains number then .again true
      else .mapping (entries.map fun (key, value) => (inner key, inner value))

/-- The value at a place of a document. -/
def value (document : Document) (number : Nat) : Value :=
  document.valueAt (document.things.size + 1) [] number

/-- Whether what stands at a place counts as true. -/
def isTrue (document : Document) (number : Nat) : Bool :=
  match document.things[number]?.join with
  | none => false
  | some (.scalar value _) => value.isTrue
  | some (.list items) => !items.isEmpty
  | some (.pairs items) => !items.isEmpty
  | some (.collection members) => !members.isEmpty
  | some (.mapping entries) => !entries.isEmpty

/-- The entries of the mapping at a place. -/
def entries? (document : Document) (number : Nat) : Option (List (Value × Nat)) :=
  match document.things[number]?.join with
  | some (.mapping entries) => some (entries.map fun (key, value) => (document.value key, value))
  | _ => none

/-- Whether null stands at a place. -/
def isNull (document : Document) (number : Nat) : Bool :=
  match document.things[number]?.join with
  | some (.scalar .null _) => true
  | _ => false

/-- The text of what stands at a place. -/
def text (document : Document) (number : Nat) : Except Decimal.NumeralFault String :=
  let value := document.value number
  if value.isShowable then .ok value.display else .error .tooLarge

/-- Whether the text of what stands at a place has halves of pairs in it. -/
def isHalved (document : Document) (number : Nat) : Bool :=
  match document.things[number]?.join with
  | some (.scalar (.halved _) _) => true
  | _ => false

/-- The answers of the places of a document. -/
def view (document : Document) : View Nat where
  isNull := document.isNull
  isTrue := document.isTrue
  entries? := document.entries?
  text := document.text
  isHalved := document.isHalved

end Document

end Yaml

end CodeBehind
