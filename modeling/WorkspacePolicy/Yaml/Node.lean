/-
# Yaml.Node — the nodes of a YAML document

A node is a scalar, a sequence or a mapping, each with the full text of its tag. The nodes
of a document are numbered in the order in which they begin, and a collection lists the
numbers of its members. An alias is the number of the node with its anchor, so a node may
be a member of several collections, or of itself. An anchor names one node of a document,
and tag handles come from the directives of the document.

`Graph.ofText?` reads a text with at most one document. Collections nest to any depth here: the
limit that a stack sets to recursion depends on the depth of the calls around it, and is left
out.
-/
import WorkspacePolicy.Entries
import WorkspacePolicy.Yaml.Plain
import WorkspacePolicy.Yaml.Token

namespace WorkspacePolicy.Yaml

set_option autoImplicit false

/-- What a node holds, with numbers for the members of a collection. -/
inductive Content where
  | scalar (text : String)
  | sequence (items : List Nat)
  | mapping (entries : List (Nat × Nat))
  deriving Inhabited

/-- A node of a document. -/
structure Node where
  tag : String
  content : Content
  deriving Inhabited

/-- The nodes of a document by number. -/
abbrev Nodes := Array Node

namespace Nodes

/-- The node with a number; there is an empty scalar where no node is. -/
def node (nodes : Nodes) (n : Nat) : Node :=
  (nodes[n]?).getD ⟨Tag.null, .scalar ""⟩

/-- The entries of a mapping; another node has none. -/
def entries (nodes : Nodes) (n : Nat) : List (Nat × Nat) :=
  match (nodes.node n).content with
  | .mapping entries => entries
  | _ => []

/-- Gives a node another content. -/
def setContent (nodes : Nodes) (n : Nat) (content : Content) : Nodes :=
  nodes.modify n fun node => { node with content }

/-- Gives a node another tag. -/
def setTag (nodes : Nodes) (n : Nat) (tag : String) : Nodes :=
  nodes.modify n fun node => { node with tag }

end Nodes

/-- The nodes of a document and the number of its root. -/
structure Graph where
  nodes : Nodes
  root : Nat

namespace Graph

/-- What reading a document keeps: the tokens that are left, what the document has defined so
far, and its nodes. -/
structure State where
  tokens : Token.State
  handles : List (String × String)
  anchors : List (String × Nat)
  nodes : Nodes

/-- Reading a document. -/
abbrev Reader := StateT State (Except Fault)

/-- The next token. -/
def peek : Reader Token := fun ⟨tokens, handles, anchors, nodes⟩ => do
  let (t, tokens) ← Token.next tokens
  return (t, ⟨tokens, handles, anchors, nodes⟩)

/-- Leaves the next token behind. -/
def advance : Reader Unit :=
  modify fun s => { s with tokens := s.tokens.take }

/-- The next token is one of the given ones; it stays. -/
def atAny (tokens : List Token) : Reader Bool := do
  return tokens.contains (← peek)

/-- Takes the next token if it is the given one. -/
def takeIf (t : Token) : Reader Bool := do
  if (← peek) = t then
    advance
    return true
  else return false

/-- Takes the given token, which must be the next one. -/
def expect (t : Token) : Reader Unit := do
  if !(← takeIf t) then throw .malformed

/-- Adds a node and gives its number. -/
def add (node : Node) : Reader Nat :=
  modifyGet fun s => (s.nodes.size, { s with nodes := s.nodes.push node })

/-- Adds the scalar that stands for a node that is not written. -/
def addEmpty : Reader Nat := add ⟨Tag.null, .scalar ""⟩

/-- The full text of a tag. -/
def fullTag (handle : Option String) (suffix : String) : Reader String := do
  match handle with
  | none => return suffix
  | some handle =>
    match Entries.find? handle (← get).handles with
    | some expansion => return expansion ++ suffix
    | none => throw .malformed

/-- The anchor and the tag at the front of a node, in either order. -/
def takeProperties : Reader (Option String × Option String) := do
  match ← peek with
  | .anchor name =>
    advance
    match ← peek with
    | .tag handle suffix =>
      advance
      return (some name, some (← fullTag handle suffix))
    | _ => return (some name, none)
  | .tag handle suffix =>
    advance
    match ← peek with
    | .anchor name =>
      advance
      return (some name, some (← fullTag handle suffix))
    | _ => return (none, some (← fullTag handle suffix))
  | _ => return (none, none)

/-- Names a node; the name must be new in the document. -/
def setAnchor (anchor : Option String) (n : Nat) : Reader Unit := do
  match anchor with
  | none => return
  | some name =>
    if (Entries.find? name (← get).anchors).isSome then throw .malformed
    modify fun s => { s with anchors := (name, n) :: s.anchors }

/-- The tag of a node, where none and `!` mean the usual one. -/
def tagOr (tag : Option String) (usual : String) : String :=
  match tag with
  | none => usual
  | some tag => if tag = "!" then usual else tag

/-- The tag of a scalar. -/
def scalarTag (tag : Option String) (text : String) (plain : Bool) : String :=
  if tag = some "!" || (plain && tag = none) then Plain.tagOf text
  else tag.getD Tag.text

/-- Adds a scalar. -/
def addScalar (anchor tag : Option String) (text : String) (plain : Bool) : Reader Nat := do
  let n ← add ⟨scalarTag tag text plain, .scalar text⟩
  setAnchor anchor n
  return n

/-- Adds a collection, which has its number and its anchor before its members are read. -/
def addCollection (anchor : Option String) (tag : String) (empty : Content)
    (members : Reader Content) : Reader Nat := do
  let n ← add ⟨tag, empty⟩
  setAnchor anchor n
  let content ← members
  modify fun s => { s with nodes := s.nodes.setContent n content }
  return n

/-- Adds a sequence with the items that are read. -/
def addSequence (anchor tag : Option String) (items : Reader (List Nat)) : Reader Nat :=
  addCollection anchor (tagOr tag Tag.sequence) (.sequence []) (.sequence <$> items)

/-- Adds a mapping with the entries that are read. -/
def addMapping (anchor tag : Option String) (entries : Reader (List (Nat × Nat))) :
    Reader Nat :=
  addCollection anchor (tagOr tag Tag.mapping) (.mapping []) (.mapping <$> entries)

mutual

/-- A node. With `block` it may be a block collection; with `indentless` it may be a sequence
whose hyphens stand at the indentation of the mapping around it. -/
def readNode (block indentless : Bool) : Nat → Reader Nat
  | 0 => throw .malformed
  | fuel + 1 => do
    match ← peek with
    | .alias name =>
      advance
      match Entries.find? name (← get).anchors with
      | some n => return n
      | none => throw .malformed
    | _ =>
      let (anchor, tag) ← takeProperties
      let t ← peek
      if indentless && t = .blockEntry then addSequence anchor tag (readIndentless fuel)
      else
        match t with
        | .scalar text plain =>
          advance
          addScalar anchor tag text plain
        | .flowSequenceStart =>
          advance
          addSequence anchor tag (readFlowItems true fuel)
        | .flowMappingStart =>
          advance
          addMapping anchor tag (readFlowEntries true fuel)
        | _ =>
          if block && t = .blockSequenceStart then
            advance
            addSequence anchor tag (readBlockItems fuel)
          else if block && t = .blockMappingStart then
            advance
            addMapping anchor tag (readBlockEntries fuel)
          else if anchor.isSome || tag.isSome then addScalar anchor tag "" tag.isNone
          else throw .malformed
termination_by structural fuel => fuel

/-- The items of a block sequence up to its end. -/
def readBlockItems : Nat → Reader (List Nat)
  | 0 => throw .malformed
  | fuel + 1 => do
    if ← takeIf .blockEntry then
      let item ←
        if ← atAny [.blockEntry, .blockEnd] then addEmpty else readNode true false fuel
      return item :: (← readBlockItems fuel)
    else
      expect .blockEnd
      return []
termination_by structural fuel => fuel

/-- The items of a sequence without an indentation of its own. -/
def readIndentless : Nat → Reader (List Nat)
  | 0 => throw .malformed
  | fuel + 1 => do
    if ← takeIf .blockEntry then
      let item ←
        if ← atAny [.blockEntry, .key, .value, .blockEnd] then addEmpty
        else readNode true false fuel
      return item :: (← readIndentless fuel)
    else return []
termination_by structural fuel => fuel

/-- The entries of a block mapping up to its end. -/
def readBlockEntries : Nat → Reader (List (Nat × Nat))
  | 0 => throw .malformed
  | fuel + 1 => do
    if ← takeIf .key then
      let key ←
        if ← atAny [.key, .value, .blockEnd] then addEmpty else readNode true true fuel
      let value ← readBlockValue fuel
      return (key, value) :: (← readBlockEntries fuel)
    else
      expect .blockEnd
      return []
termination_by structural fuel => fuel

/-- The value of an entry in a block mapping. -/
def readBlockValue : Nat → Reader Nat
  | 0 => throw .malformed
  | fuel + 1 => do
    if ← takeIf .value then
      if ← atAny [.key, .value, .blockEnd] then addEmpty else readNode true true fuel
    else addEmpty
termination_by structural fuel => fuel

/-- The value of an entry in a flow collection that `stop` may end. -/
def readFlowValue (stop : Token) : Nat → Reader Nat
  | 0 => throw .malformed
  | fuel + 1 => do
    if ← takeIf .value then
      if ← atAny [.flowEntry, stop] then addEmpty else readNode false false fuel
    else addEmpty
termination_by structural fuel => fuel

/-- An entry of a flow collection that `stop` may end, after its key mark. -/
def readFlowEntry (stop : Token) : Nat → Reader (Nat × Nat)
  | 0 => throw .malformed
  | fuel + 1 => do
    let key ←
      if ← atAny [.value, .flowEntry, stop] then addEmpty else readNode false false fuel
    return (key, ← readFlowValue stop fuel)
termination_by structural fuel => fuel

/-- The items of a flow sequence up to its end; a key makes a mapping of one entry. -/
def readFlowItems (first : Bool) : Nat → Reader (List Nat)
  | 0 => throw .malformed
  | fuel + 1 => do
    if ← takeIf .flowSequenceEnd then return []
    if !first then expect .flowEntry
    if ← takeIf .key then
      let item ← addMapping none none (return [← readFlowEntry .flowSequenceEnd fuel])
      return item :: (← readFlowItems false fuel)
    else if ← takeIf .flowSequenceEnd then return []
    else
      let item ← readNode false false fuel
      return item :: (← readFlowItems false fuel)
termination_by structural fuel => fuel

/-- The entries of a flow mapping up to its end; a node without a key mark has no value. -/
def readFlowEntries (first : Bool) : Nat → Reader (List (Nat × Nat))
  | 0 => throw .malformed
  | fuel + 1 => do
    if ← takeIf .flowMappingEnd then return []
    if !first then expect .flowEntry
    if ← takeIf .key then
      let entry ← readFlowEntry .flowMappingEnd fuel
      return entry :: (← readFlowEntries false fuel)
    else if ← takeIf .flowMappingEnd then return []
    else
      let key ← readNode false false fuel
      return (key, ← addEmpty) :: (← readFlowEntries false fuel)
termination_by structural fuel => fuel

end

/-- The tag handles that are always defined. -/
def standardHandles : List (String × String) :=
  [("!", "!"), ("!!", Tag.standard "")]

/-- The directives of a document, with the handles they define. The version may be given once
and has the major number 1; a handle may be defined once. -/
def readDirectives : Nat → Bool → List (String × String) → Reader (List (String × String))
  | 0, _, handles => return handles
  | fuel + 1, versioned, handles => do
    match ← peek with
    | .directive (.version major) =>
      if versioned || major != 1 then throw .malformed
      advance
      readDirectives fuel true handles
    | .directive (.tag handle expansion) =>
      if (Entries.find? handle handles).isSome then throw .malformed
      advance
      readDirectives fuel versioned (Entries.insert handle expansion handles)
    | .directive .other =>
      advance
      readDirectives fuel versioned handles
    | _ => return handles

/-- Moves over the marks at the end of a document. -/
def skipDocumentEnds : Nat → Reader Unit
  | 0 => return
  | fuel + 1 => do
    if ← takeIf .documentEnd then skipDocumentEnds fuel

/-- The next token begins or ends a document, or is a directive. -/
def atDocumentBound : Reader Bool := do
  match ← peek with
  | .directive _ => return true
  | t => return [Token.documentStart, .documentEnd, .streamEnd].contains t

/-- Handles with the standard ones that they do not define anew. -/
def withStandard (handles : List (String × String)) : List (String × String) :=
  standardHandles.foldl
    (fun all h => if (Entries.find? h.1 all).isSome then all else Entries.insert h.1 h.2 all)
    handles

/-- The end of the text after a document. A second document is not allowed, but its directives
are read before it is refused. -/
def readEnd (fuel : Nat) : Reader Unit := do
  skipDocumentEnds fuel
  if !(← atAny [.streamEnd]) then
    let _ ← readDirectives fuel false []
    throw .malformed

/-- The root of the document, `none` for a text without one. -/
def readDocument (fuel : Nat) : Reader (Option Nat) := do
  if ← atAny [.streamEnd] then return none
  let implicit := !(← atDocumentBound) || (← atAny [.documentEnd])
  let root ←
    if implicit then
      modify fun s => { s with handles := standardHandles }
      readNode true false fuel
    else
      let handles := withStandard (← readDirectives fuel false [])
      modify fun s => { s with handles }
      expect .documentStart
      if ← atDocumentBound then addEmpty else readNode true false fuel
  readEnd fuel
  return some root

/-- The document in a text. Reading takes at most a few steps for every character. -/
def ofText? (text : List Char) : Except Fault (Option Graph) := do
  let tokens ← Token.start text
  let (root, s) ← (readDocument (12 * text.length + 40)).run ⟨tokens, [], [], #[]⟩
  return root.map fun root => ⟨s.nodes, root⟩

end Graph

end WorkspacePolicy.Yaml
