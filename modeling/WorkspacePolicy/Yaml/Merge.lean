/-
# Yaml.Merge — merge keys

An entry of a mapping with the merge key `<<` stands for the entries of the mapping that is
its value, or of the mappings in the sequence that is its value, the last of them first.
`merge` puts these entries in front of the other ones, after it has done the same in the
mappings they come from, and it makes the default key `=` a text. What it has done to a
mapping holds wherever that mapping is a member.
-/
import WorkspacePolicy.Yaml.Node

namespace WorkspacePolicy.Yaml.Nodes

set_option autoImplicit false

/-- The key of an entry has the given tag. -/
def keyHasTag (nodes : Nodes) (tag : String) (entry : Nat × Nat) : Bool :=
  (nodes.node entry.1).tag == tag

/-- The node is a mapping. -/
def isMapping (nodes : Nodes) (n : Nat) : Bool :=
  match (nodes.node n).content with
  | .mapping _ => true
  | _ => false

/-- The number of merge keys in all mappings. -/
def mergeCount (nodes : Nodes) : Nat :=
  (List.range nodes.size).foldl
    (fun count n => count + (nodes.entries n).countP (nodes.keyHasTag Tag.merge)) 0

/-- Makes the default keys of a mapping texts. -/
def nameDefaultKeys (nodes : Nodes) (n : Nat) : Nodes :=
  ((nodes.entries n).filter (nodes.keyHasTag Tag.value)).foldl
    (fun nodes entry => nodes.setTag entry.1 Tag.text) nodes

/-- The mappings that a merge key brings in, in the order in which they are looked at. -/
def mergeSources (nodes : Nodes) (value : Nat) : Except Fault (List Nat) :=
  match (nodes.node value).content with
  | .mapping _ => .ok [value]
  | .sequence items => .ok items
  | .scalar _ => .error .malformed

/-- Resolves the merge keys of a mapping. `brought` are the entries that come in front of the
other ones; `fuel` exceeds the number of merge keys that are left in the document. -/
def mergeWith : Nat → List (Nat × Nat) → Nat → Nodes → Except Fault Nodes
  | 0, _, _, _ => .error .malformed
  | fuel + 1, brought, n, nodes =>
    let entries := nodes.entries n
    match entries.find? (nodes.keyHasTag Tag.merge) with
    | none =>
      let nodes := nodes.nameDefaultKeys n
      .ok (if brought.isEmpty then nodes else nodes.setContent n (.mapping (brought ++ entries)))
    | some (_, value) => do
      let others := entries.eraseP (nodes.keyHasTag Tag.merge)
      let nodes := nodes.setContent n (.mapping others)
      let (more, nodes) ← (← nodes.mergeSources value).foldlM
        (fun (more, nodes) source => do
          if !isMapping nodes source then throw Fault.malformed
          let nodes ← mergeWith fuel [] source nodes
          return (nodes.entries source ++ more, nodes))
        (([] : List (Nat × Nat)), nodes)
      mergeWith fuel (brought ++ more) n nodes
termination_by structural fuel => fuel

/-- Resolves the merge keys of a mapping, where the document has at most `count` of them. -/
def merge (nodes : Nodes) (count n : Nat) : Except Fault Nodes :=
  mergeWith (count + 1) [] n nodes

end WorkspacePolicy.Yaml.Nodes
