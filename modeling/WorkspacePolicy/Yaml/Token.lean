/-
# Yaml.Token — the tokens of YAML text

Indentation opens and closes block collections, so reading tokens keeps the columns of
the open ones. A key of a mapping is known as such only when its colon comes: every
token that may begin a key is remembered, and at the colon the key token goes in front
of it. Such a key stands on one line and has at most 1024 characters. In a block
collection a token at the indentation of the collection has to be a key.

The tokens are read as they are asked for, and no further than needed: a token is known
once it is read and cannot turn out to be a key any more. So a fault in the text shows only
where a token after it is asked for.
-/
import WorkspacePolicy.Yaml.Scalar

namespace WorkspacePolicy.Yaml

set_option autoImplicit false

/-- A directive at the head of a document. -/
inductive Directive where
  | version (major : Nat)
  | tag (handle expansion : String)
  | other
  deriving DecidableEq, Repr

/-- A token. A tag without a handle is written in full. -/
inductive Token where
  | directive (d : Directive)
  | documentStart
  | documentEnd
  | streamEnd
  | blockSequenceStart
  | blockMappingStart
  | blockEnd
  | flowSequenceStart
  | flowSequenceEnd
  | flowMappingStart
  | flowMappingEnd
  | blockEntry
  | flowEntry
  | key
  | value
  | alias (name : String)
  | anchor (name : String)
  | tag (handle : Option String) (suffix : String)
  | scalar (text : String) (plain : Bool)
  deriving DecidableEq, Repr

namespace Token

/-- A token that may turn out to be a key: its number, its place, and whether it must be one. -/
structure Candidate where
  number : Nat
  required : Bool
  index : Nat
  line : Nat
  column : Nat

/-- What reading tokens keeps between two of them. -/
structure State where
  cursor : Cursor
  /-- The tokens that are read, in order. -/
  tokens : Array Token
  /-- The number of tokens that have been taken. -/
  taken : Nat
  /-- The number of flow collections that are open. -/
  flowDepth : Nat
  /-- The column of the innermost open block collection, -1 outside all. -/
  indent : Int
  /-- The columns of the block collections around it. -/
  outer : List Int
  /-- A key may begin here. -/
  keyAllowed : Bool
  /-- The candidates, one for each depth of flow collections. -/
  candidates : List (Nat × Candidate)
  finished : Bool

namespace State

def start (text : List Char) : State :=
  ⟨.start text, #[], 0, 0, -1, [], true, [], false⟩

def push (s : State) (t : Token) : State :=
  { s with tokens := s.tokens.push t }

/-- Puts a token in front of the one with the given number. -/
def insertAt (s : State) (number : Nat) (t : Token) : State :=
  { s with tokens := s.tokens.insertIdxIfInBounds number t }

def moveTo (s : State) (c : Cursor) : State :=
  { s with cursor := c }

def inFlow (s : State) : Bool := s.flowDepth != 0

/-- Closes the block collections that are indented deeper than a column. -/
def unwind (s : State) (column : Int) : State :=
  if s.inFlow then s
  else
    let deeper := (s.indent :: s.outer).takeWhile (column < ·)
    match (s.indent :: s.outer).drop deeper.length with
    | indent :: outer =>
      { s with
        indent := indent
        outer := outer
        tokens := s.tokens ++ Array.replicate deeper.length Token.blockEnd }
    | [] => s

/-- Opens a block collection at a column; the flag says whether there was none yet. -/
def indentTo (s : State) (column : Nat) : State × Bool :=
  if s.indent < column then ({ s with indent := column, outer := s.indent :: s.outer }, true)
  else (s, false)

/-- Forgets the candidate of the current depth, which must not be one that has to be a key. -/
def dropCandidate (s : State) : Except Fault State :=
  match s.candidates.find? (·.1 == s.flowDepth) with
  | some (_, candidate) =>
    if candidate.required then .error .malformed
    else .ok { s with candidates := s.candidates.filter (·.1 != s.flowDepth) }
  | none => .ok s

/-- Forgets the candidates whose key would be too long or would go over a line end. -/
def dropStale (s : State) : Except Fault State :=
  let stale := fun (c : Candidate) =>
    c.line != s.cursor.line || 1024 < s.cursor.index - c.index
  if s.candidates.any fun c => stale c.2 && c.2.required then .error .malformed
  else .ok { s with candidates := s.candidates.filter fun c => !stale c.2 }

/-- Remembers the next token as one that may be a key. -/
def saveCandidate (s : State) : Except Fault State :=
  if s.keyAllowed then do
    let required := !s.inFlow && s.indent == s.cursor.column
    let s ← s.dropCandidate
    let candidate : Candidate :=
      ⟨s.tokens.size, required, s.cursor.index, s.cursor.line, s.cursor.column⟩
    return { s with candidates := (s.flowDepth, candidate) :: s.candidates }
  else .ok s

end State

/-- Moves to the next token, over spaces, comments and line ends. -/
def skipToNext : Nat → State → State
  | 0, s => s
  | fuel + 1, s =>
    let c := s.cursor
    let c := if c.index == 0 && c.peek 0 == '\ufeff' then c.next else c
    let c := c.skip (· == ' ')
    let c := if c.peek 0 == '#' then c.skip (!isBreakOrEnd ·) else c
    match c.lineBreak? with
    | some (_, after) =>
      skipToNext fuel { s with cursor := after, keyAllowed := s.keyAllowed || !s.inFlow }
    | none => s.moveTo c

/-- A nonempty run of word characters at the cursor. -/
def scanWord (c : Cursor) : Except Fault (String × Cursor) :=
  match c.span isWordChar with
  | [] => .error .malformed
  | word => .ok (String.ofList word, c.forward word.length)

/-- A tag handle: an exclamation mark, alone before a space or else word characters between
two of them. -/
def scanHandle (c : Cursor) : Except Fault (String × Cursor) :=
  if c.peek 0 != '!' then .error .malformed
  else if c.peek 1 == ' ' then .ok ("!", c.next)
  else
    let word := c.next.span isWordChar
    let after := c.next.forward word.length
    if after.peek 0 == '!' then .ok (String.ofList ('!' :: word ++ ['!']), after.next)
    else .error .malformed

/-- The bytes of a run of percent escapes. -/
def scanUriBytes : Nat → Cursor → Except Fault (List UInt8 × Cursor)
  | 0, c => .ok ([], c)
  | fuel + 1, c =>
    if c.peek 0 == '%' then
      match Whole.hexDigit? (c.peek 1), Whole.hexDigit? (c.peek 2) with
      | some high, some low => do
        let (bytes, after) ← scanUriBytes fuel (c.forward 3)
        return (UInt8.ofNat (16 * high + low) :: bytes, after)
      | _, _ => .error .malformed
    else .ok ([], c)

/-- A character that stands for itself in the text of a tag. -/
def isUriChar (c : Char) : Bool :=
  isWordChar c || ";/?:@&=+$,.!~*'()[]".toList.contains c

/-- The text of a tag, where percent escapes write the bytes of UTF-8. -/
def scanUriText : Nat → Cursor → Except Fault Scanned
  | 0, c => .ok ([], c)
  | fuel + 1, c =>
    let x := c.peek 0
    if x == '%' then do
      let (bytes, after) ← scanUriBytes c.size c
      match String.fromUTF8? ⟨bytes.toArray⟩ with
      | none => throw .malformed
      | some text =>
        let (rest, last) ← scanUriText fuel after
        return (text.toList ++ rest, last)
    else if isUriChar x then do
      let (rest, last) ← scanUriText fuel c.next
      return (x :: rest, last)
    else .ok ([], c)

/-- The text of a tag, which is not empty. -/
def scanUri (c : Cursor) : Except Fault (String × Cursor) := do
  let (text, after) ← scanUriText (c.size + 1) c
  if after.index = c.index then throw .malformed
  return (String.ofList text, after)

/-- The number of a version, in decimal digits. -/
def scanNumber (c : Cursor) : Except Fault (Nat × Cursor) :=
  match c.span Decimal.isDigit with
  | [] => .error .malformed
  | digits =>
    if Number.digitLimit < digits.length then .error (.tooManyDigits digits.length)
    else .ok (Decimal.value digits, c.forward digits.length)

/-- The version in a directive. -/
def scanVersion (c : Cursor) : Except Fault (Directive × Cursor) := do
  let (major, c) ← scanNumber (c.skip (· == ' '))
  if c.peek 0 != '.' then throw .malformed
  let (_, c) ← scanNumber c.next
  if !isSpaceOrEnd (c.peek 0) then throw .malformed
  return (.version major, c)

/-- The handle and the text that a directive defines for tags. -/
def scanTagDirective (c : Cursor) : Except Fault (Directive × Cursor) := do
  let (handle, c) ← scanHandle (c.skip (· == ' '))
  if c.peek 0 != ' ' then throw .malformed
  let (expansion, c) ← scanUri (c.skip (· == ' '))
  if !isSpaceOrEnd (c.peek 0) then throw .malformed
  return (.tag handle expansion, c)

/-- The directive at the cursor, to the end of its line. -/
def scanDirective (c : Cursor) : Except Fault (Directive × Cursor) := do
  let (name, c) ← scanWord c.next
  if !isSpaceOrEnd (c.peek 0) then throw .malformed
  let (d, c) ←
    if name = "YAML" then scanVersion c
    else if name = "TAG" then scanTagDirective c
    else pure (Directive.other, c.skip (!isBreakOrEnd ·))
  match c.skipCommentLine? with
  | some c => return (d, c)
  | none => throw .malformed

/-- The name of an anchor or an alias. -/
def scanAnchor (c : Cursor) : Except Fault (String × Cursor) := do
  let (name, c) ← scanWord c.next
  let x := c.peek 0
  if isSeparator x || "?:,]\x7d%@\x60".toList.contains x then return (name, c) else throw .malformed

/-- A further exclamation mark comes before the next space. -/
def hasSecondMark (c : Cursor) : Bool :=
  (c.next.rest.takeWhile (!isSpaceOrEnd ·)).contains '!'

/-- The tag at the cursor. -/
def scanTag (c : Cursor) : Except Fault (Token × Cursor) := do
  let x := c.peek 1
  let (token, c) ←
    if x == '<' then do
      let (suffix, after) ← scanUri (c.forward 2)
      if after.peek 0 != '>' then throw .malformed
      pure (Token.tag none suffix, after.next)
    else if isSeparator x then pure (Token.tag none "!", c.next)
    else do
      let (handle, afterHandle) ← if hasSecondMark c then scanHandle c else pure ("!", c.next)
      let (suffix, after) ← scanUri afterHandle
      pure (Token.tag (some handle) suffix, after)
  if isSpaceOrEnd (c.peek 0) then return (token, c) else throw .malformed

/-- Closes what is open before a directive or a mark between documents. -/
def endDocument (s : State) : Except Fault State := do
  let s ← (s.unwind (-1)).dropCandidate
  return { s with keyAllowed := false }

/-- Opens a block collection at the current column, if the indentation grows. -/
def openBlock (s : State) (opening : Token) : State :=
  let (s, opened) := s.indentTo s.cursor.column
  if opened then s.push opening else s

/-- A token of one character that may begin a key. -/
def fetchFlowStart (s : State) (t : Token) : Except Fault State := do
  let s ← s.saveCandidate
  return { (s.push t).moveTo s.cursor.next with flowDepth := s.flowDepth + 1, keyAllowed := true }

/-- The end of a flow collection. -/
def fetchFlowEnd (s : State) (t : Token) : Except Fault State := do
  if s.flowDepth = 0 then throw .malformed
  let s ← s.dropCandidate
  return { (s.push t).moveTo s.cursor.next with flowDepth := s.flowDepth - 1, keyAllowed := false }

def fetchFlowEntry (s : State) : Except Fault State := do
  let s ← s.dropCandidate
  return { (s.push .flowEntry).moveTo s.cursor.next with keyAllowed := true }

def fetchBlockEntry (s : State) : Except Fault State := do
  if !s.inFlow && !s.keyAllowed then throw .malformed
  let s := if s.inFlow then s else openBlock s .blockSequenceStart
  let s ← s.dropCandidate
  return { (s.push .blockEntry).moveTo s.cursor.next with keyAllowed := true }

def fetchKey (s : State) : Except Fault State := do
  if !s.inFlow && !s.keyAllowed then throw .malformed
  let s := if s.inFlow then s else openBlock s .blockMappingStart
  let s ← s.dropCandidate
  return { (s.push .key).moveTo s.cursor.next with keyAllowed := !s.inFlow }

/-- A colon: the candidate of this depth becomes a key, or the value has no key. -/
def fetchValue (s : State) : Except Fault State := do
  match s.candidates.find? (·.1 == s.flowDepth) with
  | some (_, candidate) =>
    let s := { s with candidates := s.candidates.filter (·.1 != s.flowDepth) }
    let s := s.insertAt candidate.number .key
    let (s, opened) := if s.inFlow then (s, false) else s.indentTo candidate.column
    let s := if opened then s.insertAt candidate.number .blockMappingStart else s
    return { (s.push .value).moveTo s.cursor.next with keyAllowed := false }
  | none =>
    if !s.inFlow && !s.keyAllowed then throw .malformed
    let s := if s.inFlow then s else openBlock s .blockMappingStart
    return { (s.push .value).moveTo s.cursor.next with keyAllowed := !s.inFlow }

/-- A token that may begin a key and takes several characters. -/
def fetchNode (s : State) (scan : Cursor → Except Fault (Token × Cursor)) :
    Except Fault State := do
  let s ← s.saveCandidate
  let (t, after) ← scan s.cursor
  return { (s.push t).moveTo after with keyAllowed := false }

def fetchBlockScalar (s : State) : Except Fault State := do
  let s ← s.dropCandidate
  let (text, after) ← blockScalar s.indent s.cursor
  return { (s.push (.scalar (String.ofList text) false)).moveTo after with keyAllowed := true }

def fetchPlain (s : State) : Except Fault State := do
  let s ← s.saveCandidate
  let (text, after, broke) := plainScalar s.inFlow (s.indent + 1) s.cursor
  return { (s.push (.scalar (String.ofList text) true)).moveTo after with keyAllowed := broke }

/-- The character at the cursor begins a plain scalar. -/
def beginsPlain (inFlow : Bool) (c : Cursor) : Bool :=
  let x := c.peek 0
  !(isSeparator x || "-?:,[]\x7b\x7d#&*!|>'\"%@\x60".toList.contains x) ||
    (!isSeparator (c.peek 1) && (x == '-' || (!inFlow && (x == '?' || x == ':'))))

/-- Reads one more token. -/
def fetch (s : State) : Except Fault State := do
  let s ← (skipToNext (s.cursor.size + 1) s).dropStale
  let s := s.unwind s.cursor.column
  let c := s.cursor
  let x := c.peek 0
  let separated := isSeparator (c.peek 1)
  if x == endMark then
    let s ← endDocument s
    return { s.push .streamEnd with candidates := [], finished := true }
  else if x == '%' && c.column == 0 then
    let s ← endDocument s
    let (d, after) ← scanDirective s.cursor
    return (s.push (.directive d)).moveTo after
  else if c.column == 0 && c.isDocumentMark '-' then
    let s ← endDocument s
    return (s.push .documentStart).moveTo (s.cursor.forward 3)
  else if c.column == 0 && c.isDocumentMark '.' then
    let s ← endDocument s
    return (s.push .documentEnd).moveTo (s.cursor.forward 3)
  else if x == '[' then fetchFlowStart s .flowSequenceStart
  else if x == '\x7b' then fetchFlowStart s .flowMappingStart
  else if x == ']' then fetchFlowEnd s .flowSequenceEnd
  else if x == '\x7d' then fetchFlowEnd s .flowMappingEnd
  else if x == ',' then fetchFlowEntry s
  else if x == '-' && separated then fetchBlockEntry s
  else if x == '?' && (s.inFlow || separated) then fetchKey s
  else if x == ':' && (s.inFlow || separated) then fetchValue s
  else if x == '*' then
    fetchNode s fun c => (scanAnchor c).map fun (name, after) => (Token.alias name, after)
  else if x == '&' then
    fetchNode s fun c => (scanAnchor c).map fun (name, after) => (Token.anchor name, after)
  else if x == '!' then fetchNode s scanTag
  else if (x == '|' || x == '>') && !s.inFlow then fetchBlockScalar s
  else if x == '\'' || x == '"' then
    fetchNode s fun c =>
      (quotedScalar c).map fun (text, after) => (Token.scalar (String.ofList text) false, after)
  else if beginsPlain s.inFlow c then fetchPlain s
  else throw .malformed

/-- Reads until the next token is known: it is there, and it is no candidate for a key. -/
def settle : Nat → State → Except Fault State
  | 0, s => .ok s
  | fuel + 1, s =>
    if s.finished then .ok s
    else if s.tokens.size ≤ s.taken then fetch s >>= settle fuel
    else do
      let s ← s.dropStale
      if s.candidates.any (·.2.number == s.taken) then
        let s ← fetch s
        settle fuel s
      else return s

/-- The next token, which stays, and what reading it leaves; past the end of the text there is
only the end. -/
def next (s : State) : Except Fault (Token × State) := do
  let s ← settle (s.cursor.size + 2) s
  return ((s.tokens[s.taken]?).getD .streamEnd, s)

/-- Leaves the next token behind. -/
def State.take (s : State) : State :=
  { s with taken := s.taken + 1 }

/-- The state before the first token of a text. -/
def start (text : List Char) : Except Fault State :=
  if text.all isAllowed then .ok (.start text) else .error .malformed

end Token

end WorkspacePolicy.Yaml
