import CodeBehind.Yaml.Resolve
import CodeBehind.Yaml.Token

/-!
# Nodes

The nodes of a YAML document, before its scalars are read.

A node is a scalar, a sequence or a mapping, and carries a tag that says how it is to be read. A node without
a tag gets one: a collection that of its kind, a plain scalar that of what it looks like, any other scalar
that of a text. An anchor names a node for later, and an alias is the node that was named. Since a node can be
named before it is complete, it can hold itself, so nodes are kept in a graph and refer to one another by
their number. A text holds at most one document.

The reader takes tokens one at a time. Its recursion is bounded by a count, which no text exhausts that is not
deeper than it is long.

## Main definitions

* `Node`, `Graph`: The nodes.
* `Source`, `Read`: What is left to read, and reading from it.
* `node`: One node with all that belongs to it.
* `Graph.ofTokens?`: The document of a sequence of tokens, if there is one.
-/

namespace CodeBehind

namespace Yaml

/-- A node with its tag; it refers to other nodes by their number. -/
inductive Node where
  | scalar (tag : String) (text : List Point)
  | sequence (tag : String) (items : List Nat)
  | mapping (tag : String) (pairs : List (Nat × Nat))
  deriving Inhabited, DecidableEq, Repr

/-- The nodes of a document by their number, and the number of the outermost one. -/
structure Graph where
  nodes : Array Node
  root : Nat

/-- The tags of this standard, by their last part. -/
def standardTag (name : String) : String :=
  "tag:yaml.org,2002:" ++ name

/-- The tag of a kind of scalar. -/
def Kind.tag : Kind → String
  | truth => standardTag "bool"
  | real => standardTag "float"
  | integer => standardTag "int"
  | merge => standardTag "merge"
  | null => standardTag "null"
  | timestamp => standardTag "timestamp"
  | value => standardTag "value"
  | mark => standardTag "yaml"
  | text => standardTag "str"

/-- What is left to read, with the nodes, the anchors and the handles of tags known so far. -/
structure Source where
  tokens : List Token
  nodes : Array Node := #[]
  anchors : List (String × Nat) := []
  handles : List (String × String) := []

/-- Reading from a source; it fails if the text is not well formed. -/
abbrev Read := StateT Source Option

/-- The token that comes next. -/
def nextToken : Read (Option Token) := do
  return (← get).tokens.head?

/-- Pass the token that comes next. -/
def passToken : Read Unit :=
  modify fun source => { source with tokens := source.tokens.drop 1 }

/-- Pass a token that must come next. -/
def passOnly (token : Token) : Read Unit := do
  if (← nextToken) = some token then passToken else failure

/-- Pass a token if it comes next, and say whether it did. -/
def passIf (token : Token) : Read Bool := do
  if (← nextToken) = some token then
    passToken
    return true
  else return false

/-- Whether one of some tokens comes next. -/
def comesNext (tokens : List Token) : Read Bool := do
  return (← nextToken).any tokens.contains

/-- Add a node. -/
def addNode (node : Node) : Read Nat := do
  let number := (← get).nodes.size
  modify fun source => { source with nodes := source.nodes.push node }
  return number

/-- Replace a node. -/
def putNode (number : Nat) (node : Node) : Read Unit :=
  modify fun source => { source with nodes := source.nodes.setIfInBounds number node }

/-- A scalar without a text. -/
def emptyNode : Read Nat :=
  addNode (.scalar Kind.null.tag [])

/-- An anchor, if one comes. -/
def anchor? : Read (Option String) := do
  match ← nextToken with
  | some (.anchor name) =>
    passToken
    return some name
  | _ => return none

/-- A tag, if one comes, with its handle expanded. -/
def tag? : Read (Option String) := do
  match ← nextToken with
  | some (.tag handle suffix) =>
    passToken
    match handle with
    | none => return some suffix
    | some handle =>
      match (← get).handles.lookup handle with
      | some expansion => return some (expansion ++ suffix)
      | none => failure
  | _ => return none

/-- The anchor and the tag of a node, in either order. -/
def properties : Read (Option String × Option String) := do
  match ← anchor? with
  | some name => return (some name, ← tag?)
  | none =>
    let tag ← tag?
    return (← anchor?, tag)

/-- Add a node and name it; a name must not be given twice. -/
def register (name : Option String) (node : Node) : Read Nat := do
  let number ← addNode node
  match name with
  | none => return number
  | some name =>
    if ((← get).anchors.lookup name).isSome then failure
    else
      modify fun source => { source with anchors := (name, number) :: source.anchors }
      return number

/-- Add and name a sequence whose items are read afterwards. -/
def sequence (name : Option String) (tag : String) (items : Read (List Nat)) : Read Nat := do
  let number ← register name (.sequence tag [])
  putNode number (.sequence tag (← items))
  return number

/-- Add and name a mapping whose pairs are read afterwards. -/
def mapping (name : Option String) (tag : String) (pairs : Read (List (Nat × Nat))) : Read Nat := do
  let number ← register name (.mapping tag [])
  putNode number (.mapping tag (← pairs))
  return number

/-- The tag of a collection. -/
def collectionTag (tag : Option String) (default : String) : String :=
  match tag with
  | none => standardTag default
  | some tag => if tag = "!" then standardTag default else tag

/-- The tag of a scalar; one that is marked as not specific is read like a plain one. -/
def scalarTag (tag : Option String) (isPlain : Bool) (text : List Point) : String :=
  let kind := resolve (String.ofList (Point.shown text))
  match tag with
  | none => if isPlain then kind.tag else Kind.text.tag
  | some tag => if tag = "!" then kind.tag else tag

/-- The tag of a node that has properties and nothing else. -/
def bareTag (tag : Option String) : String :=
  match tag with
  | none => Kind.null.tag
  | some tag => if tag = "!" then Kind.null.tag else tag

mutual

/-- A node; `inBlock` says whether it may be a block, and `indentless` whether its entries may begin without
    one. -/
def node (inBlock indentless : Bool) : Nat → Read Nat
  | 0 => failure
  | fuel + 1 => do
    match ← nextToken with
    | some (.alias name) =>
      passToken
      match (← get).anchors.lookup name with
      | some found => return found
      | none => failure
    | _ =>
      let (name, tag) ← properties
      match ← nextToken with
      | some (.scalar text isPlain) =>
        passToken
        register name (.scalar (scalarTag tag isPlain text) text)
      | some .sequenceStart =>
        passToken
        sequence name (collectionTag tag "seq") (flowItems true fuel)
      | some .mappingStart =>
        passToken
        mapping name (collectionTag tag "map") (flowPairs true fuel)
      | some .blockEntry =>
        if indentless then
          sequence name (collectionTag tag "seq") (indentlessItems fuel)
        else bare name tag
      | some .blockSequenceStart =>
        if inBlock then
          passToken
          sequence name (collectionTag tag "seq") (blockItems fuel)
        else bare name tag
      | some .blockMappingStart =>
        if inBlock then
          passToken
          mapping name (collectionTag tag "map") (blockPairs fuel)
        else bare name tag
      | _ => bare name tag

/-- A node that has properties and nothing else. -/
def bare (name tag : Option String) : Read Nat :=
  if name.isNone && tag.isNone then failure else register name (.scalar (bareTag tag) [])

/-- A node, or the empty one if one of some tokens comes next. -/
def nodeUnless (enders : List Token) (inBlock indentless : Bool) : Nat → Read Nat
  | 0 => failure
  | fuel + 1 => do
    if (← comesNext enders) || (← nextToken).isNone then emptyNode else node inBlock indentless fuel

/-- The items of a block sequence, to its end. -/
def blockItems : Nat → Read (List Nat)
  | 0 => failure
  | fuel + 1 => do
    if ← passIf .blockEntry then
      let item ← nodeUnless [.blockEntry, .blockEnd] true false fuel
      return item :: (← blockItems fuel)
    else
      passOnly .blockEnd
      return []

/-- The items of a sequence that stands as far in as the key before it. -/
def indentlessItems : Nat → Read (List Nat)
  | 0 => failure
  | fuel + 1 => do
    if ← passIf .blockEntry then
      let item ← nodeUnless [.blockEntry, .key, .value, .blockEnd] true false fuel
      return item :: (← indentlessItems fuel)
    else return []

/-- The pairs of a block mapping, to its end. -/
def blockPairs : Nat → Read (List (Nat × Nat))
  | 0 => failure
  | fuel + 1 => do
    if ← passIf .key then
      let enders := [.key, .value, .blockEnd]
      let key ← nodeUnless enders true true fuel
      let value ← if ← passIf .value then nodeUnless enders true true fuel else emptyNode
      return (key, value) :: (← blockPairs fuel)
    else
      passOnly .blockEnd
      return []

/-- The items of a flow sequence, to its end; a key in it makes a mapping of one pair. -/
def flowItems (first : Bool) : Nat → Read (List Nat)
  | 0 => failure
  | fuel + 1 => do
    if ← passIf .sequenceEnd then return []
    else
      if !first then passOnly .flowEntry
      if ← passIf .sequenceEnd then return []
      else if ← passIf .key then
        let key ← nodeUnless [.value, .flowEntry, .sequenceEnd] false false fuel
        let value ← if ← passIf .value then nodeUnless [.flowEntry, .sequenceEnd] false false fuel
          else emptyNode
        let item ← addNode (.mapping (standardTag "map") [(key, value)])
        return item :: (← flowItems false fuel)
      else
        let item ← node false false fuel
        return item :: (← flowItems false fuel)

/-- The pairs of a flow mapping, to its end; a key may be without a value. -/
def flowPairs (first : Bool) : Nat → Read (List (Nat × Nat))
  | 0 => failure
  | fuel + 1 => do
    if ← passIf .mappingEnd then return []
    else
      if !first then passOnly .flowEntry
      if ← passIf .mappingEnd then return []
      else if ← passIf .key then
        let key ← nodeUnless [.value, .flowEntry, .mappingEnd] false false fuel
        let value ← if ← passIf .value then nodeUnless [.flowEntry, .mappingEnd] false false fuel
          else emptyNode
        return (key, value) :: (← flowPairs false fuel)
      else
        let key ← node false false fuel
        let value ← emptyNode
        return (key, value) :: (← flowPairs false fuel)

end

/-- The handles that every document knows. -/
def commonHandles : List (String × String) :=
  [("!", "!"), ("!!", standardTag "")]

/-- The directives before a document, with the handles they give; at most one version, and it must be known. -/
def directives (versioned : Bool) (handles : List (String × String)) : Nat → Read (List (String × String))
  | 0 => failure
  | fuel + 1 => do
    match ← nextToken with
    | some (.version major) =>
      if versioned || major ≠ 1 then failure
      else
        passToken
        directives true handles fuel
    | some (.tagHandle handle expansion) =>
      if (handles.lookup handle).isSome then failure
      else
        passToken
        directives versioned ((handle, expansion) :: handles) fuel
    | some .reserved =>
      passToken
      directives versioned handles fuel
    | _ => return handles

/-- Pass the ends of documents. -/
def passDocumentEnds : Nat → Read Unit
  | 0 => failure
  | fuel + 1 => do
    if ← passIf .documentEnd then passDocumentEnds fuel else return ()

/-- Whether a directive or the mark of a document comes next. -/
def beginsExplicitly : Option Token → Bool
  | some (.version _) => true
  | some (.tagHandle ..) => true
  | some .reserved => true
  | some .documentStart => true
  | _ => false

/-- Whether a directive, a mark of a document or the end of the text comes next. -/
def endsContent : Option Token → Bool
  | none => true
  | some .documentEnd => true
  | token => beginsExplicitly token

/-- The document of a text, if there is one; nothing may come after it. -/
def document (fuel : Nat) : Read (Option Nat) := do
  match ← nextToken with
  | none => return none
  | token =>
    let root ← if beginsExplicitly token then do
        let handles ← directives false [] fuel
        modify fun source => { source with handles := handles ++ commonHandles }
        passOnly .documentStart
        if endsContent (← nextToken) then emptyNode else node true false fuel
      else do
        modify fun source => { source with handles := commonHandles }
        node true false fuel
    passDocumentEnds fuel
    if (← nextToken).isNone then return some root else failure

/-- The document of a sequence of tokens, if there is one; `none` if the tokens do not fit together. -/
def Graph.ofTokens? (tokens : List Token) : Option (Option Graph) := do
  let (root, source) ← (document (4 * tokens.length + 4)).run { tokens }
  return root.map fun root => { nodes := source.nodes, root }

end Yaml

end CodeBehind
