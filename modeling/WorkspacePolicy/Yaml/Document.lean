/-
# Yaml.Document — the values of a YAML document

The tag of a node decides how its value is made; a tag that is not standard makes none.
The collections of a document are numbered, and a value that is a collection is its
number, so collections that share members, or that are members of themselves, are no
larger than their text. Keys of mappings and members of sets must not be collections. Of
equal texts as keys the last entry counts.

A collection is empty when it is made, and it is filled after all that were made before
it. So of several faults the one that is met first in that order is reported.

`Yaml.read` gives the value of a text; a text without a document has the value null.
-/
import WorkspacePolicy.Yaml.Merge
import WorkspacePolicy.Yaml.Value

namespace WorkspacePolicy.Yaml

set_option autoImplicit false

/-- The members of a collection. -/
inductive Collection where
  | sequence (items : List Value)
  | mapping (entries : List (Value × Value))
  | set (members : List Value)
  | pairs (items : List (Value × Value))
  deriving Inhabited

namespace Collection

def isEmpty : Collection → Bool
  | .sequence items => items.isEmpty
  | .mapping entries => entries.isEmpty
  | .set members => members.isEmpty
  | .pairs items => items.isEmpty

/-- The last value of a text as key. -/
def field? (name : String) (entries : List (Value × Value)) : Option Value :=
  entries.foldl (fun found entry =>
    match entry.1 with
    | .text key => if key = name then some entry.2 else found
    | _ => found) none

end Collection

/-- A value with the collections that it may refer to. -/
structure Document where
  root : Value
  collections : Array Collection

namespace Document

/-- The collection of the root, if it is one. -/
def rootCollection? (d : Document) : Option Collection :=
  match d.root with
  | .collection n => d.collections[n]?
  | _ => none

/-- Null, false, zero, or an empty text or collection. -/
def isEmpty (d : Document) : Bool :=
  match d.root with
  | .null => true
  | .bool value => !value
  | .number value => value.isZero
  | .text value => value.isEmpty
  | .bytes size => size == 0
  | .moment _ => false
  | .collection _ => (d.rootCollection?.map Collection.isEmpty).getD true

/-- How a collection is filled. -/
inductive Kind where
  | sequence
  | mapping
  | set
  | pairs
  deriving DecidableEq, Repr

/-- The kind of collection that a tag makes. -/
def kindOf? (tag : String) : Option Kind :=
  if tag = Tag.sequence then some .sequence
  else if tag = Tag.mapping then some .mapping
  else if tag = Tag.set then some .set
  else if tag = Tag.orderedMap ∨ tag = Tag.pairs then some .pairs
  else none

/-- A collection of a kind without members. -/
def Kind.empty : Kind → Collection
  | .sequence => .sequence []
  | .mapping => .mapping []
  | .set => .set []
  | .pairs => .pairs []

/-- What making values keeps: the nodes, the values that nodes have, and the collections. -/
structure State where
  nodes : Nodes
  /-- The number of merge keys of the document at most. -/
  merges : Nat
  made : Array (Option Value)
  collections : Array Collection
  /-- The collections from this number on are not filled. -/
  filled : Nat
  /-- The node and the kind of each collection. -/
  sources : Array (Nat × Kind)

/-- Making values. -/
abbrev Maker := StateT State (Except Fault)

/-- The text of a node that a scalar type asks for; a mapping gives its default entry. `fuel`
exceeds the number of nodes, so a way through more of them is endless. -/
def scalarText (nodes : Nodes) : Nat → Nat → Except Fault String
  | 0, _ => .error .endlessDefault
  | fuel + 1, n =>
    match (nodes.node n).content with
    | .scalar text => .ok text
    | .sequence _ => .error .malformed
    | .mapping entries =>
      match entries.find? (nodes.keyHasTag Tag.value) with
      | some (_, value) => scalarText nodes fuel value
      | none => .error .malformed

/-- The value of a node with the tag of a scalar type. -/
def scalarValue (nodes : Nodes) (n : Nat) : Except Fault Value := do
  let tag := (nodes.node n).tag
  if !Value.isScalarTag tag then throw .malformed
  let text ← scalarText nodes (nodes.size + 1) n
  if tag = Tag.timestamp && nodes.isMapping n then throw .momentOfMapping
  Value.ofScalar tag text

/-- Remembers the value of a node. -/
def setMade (n : Nat) (value : Value) : Maker Unit :=
  modify fun s => { s with made := s.made.setIfInBounds n (some value) }

/-- A new collection, not yet filled, as the value of a node. -/
def addCollection (n : Nat) (kind : Kind) : Maker Value :=
  modifyGet fun s =>
    (.collection s.collections.size,
      { s with
        collections := s.collections.push kind.empty
        sources := s.sources.push (n, kind) })

/-- The value of a node. It is made once. -/
def valueOf (n : Nat) : Maker Value := do
  let s ← get
  match (s.made[n]?).bind id with
  | some value => return value
  | none =>
    let value ←
      match kindOf? (s.nodes.node n).tag with
      | some kind => addCollection n kind
      | none => scalarValue s.nodes n
    setMade n value
    return value

/-- The value of a node that is a key. -/
def keyOf (n : Nat) : Maker Value := do
  match ← valueOf n with
  | .collection _ => throw .malformed
  | value => return value

/-- The entries of a mapping, with its merge keys resolved. -/
def entriesOf (n : Nat) : Maker (List (Value × Value)) := do
  let s ← get
  if !s.nodes.isMapping n then throw .malformed
  let nodes ← s.nodes.merge s.merges n
  set { s with nodes }
  (nodes.entries n).mapM fun entry => return (← keyOf entry.1, ← valueOf entry.2)

/-- The pair of a mapping with one entry. -/
def pairOf (n : Nat) : Maker (Value × Value) := do
  match ((← get).nodes.node n).content with
  | .mapping [(key, value)] => return (← valueOf key, ← valueOf value)
  | _ => throw .malformed

/-- The members of a collection, made from a node. -/
def membersOf (n : Nat) (kind : Kind) : Maker Collection := do
  match kind with
  | .mapping => return .mapping (← entriesOf n)
  | .set => return .set ((← entriesOf n).map (·.1))
  | .sequence =>
    match ((← get).nodes.node n).content with
    | .sequence items => return .sequence (← items.mapM valueOf)
    | _ => throw .malformed
  | .pairs =>
    match ((← get).nodes.node n).content with
    | .sequence items => return .pairs (← items.mapM pairOf)
    | _ => throw .malformed

/-- Fills the collections in order, among them those that are made meanwhile; `fuel` bounds
their number. -/
def fillAll : Nat → Maker Unit
  | 0 => return
  | fuel + 1 => do
    let s ← get
    match s.sources[s.filled]? with
    | none => return
    | some (n, kind) =>
      let members ← membersOf n kind
      modify fun s => { s with
        collections := s.collections.setIfInBounds s.filled members
        filled := s.filled + 1 }
      fillAll fuel

/-- The document of a graph of nodes. -/
def ofGraph (g : Graph) : Except Fault Document := do
  let size := g.nodes.size
  let start : State :=
    ⟨g.nodes, g.nodes.mergeCount, Array.replicate size none, #[], 0, #[]⟩
  let make : Maker Value := do
    let root ← valueOf g.root
    fillAll (size + 1)
    return root
  let (root, s) ← make.run start
  return ⟨root, s.collections⟩

end Document

/-- The document in a text. -/
def read (text : List Char) : Except Fault Document := do
  match ← Graph.ofText? text with
  | none => return ⟨.null, #[]⟩
  | some graph => Document.ofGraph graph

end WorkspacePolicy.Yaml
