/-
# Yaml.Scalar — the text of scalars

A scalar is plain, quoted, or a block. Inside plain and quoted scalars a single line
break reads as a space and each further one as itself. In double quotes a backslash
writes a character by name or by code. A block keeps its lines, or folds them, below
an indentation that its first line sets; its header may fix the indentation and say
whether the line breaks at its end are all dropped or all kept.

Every function takes the cursor at the scalar and gives the text with the cursor after
it. Recursion is bounded by the number of characters that are left.
-/
import WorkspacePolicy.Yaml.Cursor
import WorkspacePolicy.Number.Whole
import WorkspacePolicy.Text.Surrogate

namespace WorkspacePolicy.Yaml

set_option autoImplicit false

/-- A text with the cursor after it. -/
abbrev Scanned := List Char × Cursor

/-- The character that an escape in double quotes names. -/
def namedEscape? (c : Char) : Option Char :=
  match c with
  | '0' => some '\x00' | 'a' => some '\x07' | 'b' => some '\x08'
  | 't' => some '\t' | '\t' => some '\t' | 'n' => some '\n'
  | 'v' => some '\x0b' | 'f' => some '\x0c' | 'r' => some '\r'
  | 'e' => some '\x1b' | ' ' => some ' ' | '"' => some '"'
  | '\\' => some '\\' | '/' => some '/' | 'N' => some '\x85'
  | '_' => some '\xa0' | 'L' => some '\u2028' | 'P' => some '\u2029'
  | _ => none

/-- The number of hexadecimal digits of an escape by code. -/
def codeEscapeLength? (c : Char) : Option Nat :=
  match c with
  | 'x' => some 2 | 'u' => some 4 | 'U' => some 8 | _ => none

/-- The number that hexadecimal digits write, if all are such digits. -/
def hexValue? (digits : List Char) : Option Nat :=
  digits.foldlM (fun n c => (Whole.hexDigit? c).map (16 * n + ·)) 0

/-- The line breaks inside a quoted scalar from the cursor on, with blanks around them left
out. A mark between documents must not come up. -/
def quotedBreaks : Nat → Cursor → Except Fault Scanned
  | 0, c => .ok ([], c)
  | fuel + 1, c =>
    if c.atDocumentMark then .error .malformed
    else
      let c := c.skip fun x => x == ' ' || x == '\t'
      match c.lineBreak? with
      | some (b, after) => do
        let (breaks, last) ← quotedBreaks fuel after
        return (b :: breaks, last)
      | none => .ok ([], c)

/-- What a line break reads as, given the breaks that follow it: alone it is a space. -/
def foldBreak (b : Char) (breaks : List Char) : List Char :=
  if b != '\n' then b :: breaks else if breaks.isEmpty then [' '] else breaks

/-- The character that a code names; a lone surrogate may be named too. -/
def charOfCode (code : Nat) : Except Fault Char :=
  if 0x80000000 ≤ code then .error .codeTooLarge
  else if 0x110000 ≤ code then .error .codeOutOfRange
  else .ok (Text.ofCodePoint code)

/-- The escape after a backslash in double quotes. -/
def doubleEscape (fuel : Nat) (c : Cursor) : Except Fault Scanned :=
  let x := c.peek 0
  match namedEscape? x with
  | some e => .ok ([e], c.next)
  | none =>
    match codeEscapeLength? x with
    | some n =>
      let digits := c.next.rest.take n
      match hexValue? digits with
      | some code =>
        if digits.length < n then .error .malformed
        else (charOfCode code).map fun e => ([e], c.next.forward n)
      | none => .error .malformed
    | none =>
      match c.lineBreak? with
      | some (_, after) => quotedBreaks fuel after
      | none => .error .malformed

/-- A quoted scalar from the character after its opening quote to its closing one. -/
def quotedBody (quote : Char) : Nat → Cursor → Except Fault Scanned
  | 0, _ => .error .malformed
  | fuel + 1, c =>
    let double := quote == '"'
    let x := c.peek 0
    if x == endMark then .error .malformed
    else if x == quote then
      if !double && c.peek 1 == '\'' then do
        let (text, last) ← quotedBody quote fuel (c.forward 2)
        return ('\'' :: text, last)
      else .ok ([], c.next)
    else if double && x == '\\' then do
      let (e, after) ← doubleEscape fuel c.next
      let (text, last) ← quotedBody quote fuel after
      return (e ++ text, last)
    else if isSeparator x then do
      let blanks := c.span fun y => y == ' ' || y == '\t'
      let after := c.forward blanks.length
      match after.lineBreak? with
      | some (b, afterBreak) =>
        let (breaks, later) ← quotedBreaks fuel afterBreak
        let (text, last) ← quotedBody quote fuel later
        return (foldBreak b breaks ++ text, last)
      | none =>
        let (text, last) ← quotedBody quote fuel after
        return (blanks ++ text, last)
    else do
      let (text, last) ← quotedBody quote fuel c.next
      return (x :: text, last)

/-- The quoted scalar at the cursor. -/
def quotedScalar (c : Cursor) : Except Fault Scanned :=
  quotedBody (c.peek 0) (c.size + 1) c.next

/-- The plain characters at the front of a text. In a flow collection its punctuation ends
them; a colon ends them where a separator follows. -/
def plainRun (inFlow : Bool) : List Char → List Char
  | [] => []
  | c :: rest =>
    let after := rest.head?.getD endMark
    let colonEnds := c == ':' &&
      (isSeparator after || (inFlow && ",[]{}".toList.contains after))
    let flowEnds := inFlow && ",?[]{}".toList.contains c
    if isSeparator c || colonEnds || flowEnds then [] else c :: plainRun inFlow rest

/-- The breaks and spaces after the first line break inside a plain scalar, and whether a mark
between documents stops them. -/
def plainBreaks : Nat → Cursor → List Char × Cursor × Bool
  | 0, c => ([], c, false)
  | fuel + 1, c =>
    if c.peek 0 == ' ' then plainBreaks fuel c.next
    else
      match c.lineBreak? with
      | none => ([], c, false)
      | some (b, after) =>
        if after.atDocumentMark then ([], after, true)
        else
          let (breaks, last, stopped) := plainBreaks fuel after
          (b :: breaks, last, stopped)

/-- The blanks after a piece of a plain scalar: what they read as, the cursor after them and
whether a line break is among them. -/
def plainSpaces (c : Cursor) : List Char × Cursor × Bool :=
  let blanks := c.span (· == ' ')
  let c := c.forward blanks.length
  match c.lineBreak? with
  | none => (blanks, c, false)
  | some (b, after) =>
    if after.atDocumentMark then ([], after, true)
    else
      let (breaks, last, stopped) := plainBreaks (after.size + 1) after
      if stopped then ([], last, true) else (foldBreak b breaks, last, true)

/-- A plain scalar whose lines are indented by `indent` at least. The flag says whether a line
break was read after its last piece. -/
def plainBody (inFlow : Bool) (indent : Int) :
    Nat → List Char → Cursor → Bool → List Char × Cursor × Bool
  | 0, _, c, broke => ([], c, broke)
  | fuel + 1, spaces, c, broke =>
    if c.peek 0 == '#' then ([], c, broke)
    else
      match plainRun inFlow c.rest with
      | [] => ([], c, broke)
      | piece =>
        let (nextSpaces, after, brokeHere) := plainSpaces (c.forward piece.length)
        if nextSpaces.isEmpty || after.peek 0 == '#' || (!inFlow && (after.column : Int) < indent)
        then (spaces ++ piece, after, brokeHere)
        else
          let (text, last, brokeLater) :=
            plainBody inFlow indent fuel nextSpaces after brokeHere
          (spaces ++ piece ++ text, last, brokeLater)

/-- The plain scalar at the cursor, and whether a line break was read after it. -/
def plainScalar (inFlow : Bool) (indent : Int) (c : Cursor) : List Char × Cursor × Bool :=
  plainBody inFlow indent (c.size + 1) [] c false

/-- What a block scalar does with the line breaks at its end. -/
inductive Chomping where
  | clip
  | strip
  | keep
  deriving DecidableEq, Repr

/-- The digit of an indentation indicator; zero is none. -/
def indentDigit? (c : Char) : Option (Except Fault Nat) :=
  if '0' ≤ c ∧ c ≤ '9' then
    some (if c = '0' then .error .malformed else .ok (c.toNat - '0'.toNat))
  else none

def chomping? (c : Char) : Option Chomping :=
  if c = '+' then some .keep else if c = '-' then some .strip else none

/-- The header of a block scalar: chomping and indentation in either order. -/
def blockHeader (c : Cursor) : Except Fault (Chomping × Option Nat × Cursor) := do
  let (chomping, increment, c) ←
    match chomping? (c.peek 0) with
    | some chomping =>
      match indentDigit? (c.peek 1) with
      | some digit => do pure (chomping, some (← digit), c.forward 2)
      | none => pure (chomping, none, c.next)
    | none =>
      match indentDigit? (c.peek 0) with
      | some digit => do
        let n ← digit
        match chomping? (c.peek 1) with
        | some chomping => pure (chomping, some n, c.forward 2)
        | none => pure (Chomping.clip, some n, c.next)
      | none => pure (Chomping.clip, none, c)
  if isSpaceOrEnd (c.peek 0) then
    match c.skipCommentLine? with
    | some c => return (chomping, increment, c)
    | none => throw .malformed
  else throw .malformed

/-- The empty lines before the first line of a block, and the widest column they reach. -/
def blockIndentation : Nat → Nat → Cursor → List Char × Nat × Cursor
  | 0, widest, c => ([], widest, c)
  | fuel + 1, widest, c =>
    if c.peek 0 == ' ' then
      let c := c.next
      blockIndentation fuel (max widest c.column) c
    else
      match c.lineBreak? with
      | some (b, after) =>
        let (breaks, widest, last) := blockIndentation fuel widest after
        (b :: breaks, widest, last)
      | none => ([], widest, c)

/-- Moves over spaces up to a column. -/
def skipToColumn (column : Nat) : Nat → Cursor → Cursor
  | 0, c => c
  | fuel + 1, c =>
    if c.column < column && c.peek 0 == ' ' then skipToColumn column fuel c.next else c

/-- The empty lines before the next line of a block. -/
def blockBreaks (indent : Nat) : Nat → Cursor → List Char × Cursor
  | 0, c => ([], c)
  | fuel + 1, c =>
    let c := skipToColumn indent indent c
    match c.lineBreak? with
    | some (b, after) =>
      let (breaks, last) := blockBreaks indent fuel after
      (b :: breaks, last)
    | none => ([], c)

/-- The lines of a block from the first one on, the text after the last line without its line
break, that line break and the empty lines after it. -/
def blockLines (folded : Bool) (indent : Nat) :
    Nat → List Char → Cursor → List Char × List Char × List Char × Cursor
  | 0, breaks, c => ([], [], breaks, c)
  | fuel + 1, breaks, c =>
    let startsInText := !(c.peek 0 == ' ' || c.peek 0 == '\t')
    let line := c.span (!isBreakOrEnd ·)
    let afterLine := c.forward line.length
    let (lineBreak, afterBreak) :=
      match afterLine.lineBreak? with
      | some (b, after) => ([b], after)
      | none => ([], afterLine)
    let (nextBreaks, after) := blockBreaks indent fuel afterBreak
    if after.column = indent ∧ after.peek 0 ≠ endMark then
      let nextInText := !(after.peek 0 == ' ' || after.peek 0 == '\t')
      let between :=
        if folded && lineBreak == ['\n'] && startsInText && nextInText then
          if nextBreaks.isEmpty then [' '] else []
        else lineBreak
      let (text, lastBreak, lastBreaks, last) := blockLines folded indent fuel nextBreaks after
      (breaks ++ line ++ between ++ text, lastBreak, lastBreaks, last)
    else (breaks ++ line, lineBreak, nextBreaks, after)

/-- The block scalar at the cursor, inside a collection indented by `parent`. -/
def blockScalar (parent : Int) (c : Cursor) : Except Fault Scanned := do
  let folded := c.peek 0 == '>'
  let (chomping, increment, c) ← blockHeader c.next
  let least := (max (parent + 1) 1).toNat
  let fuel := c.size + 1
  let (indent, breaks, c) :=
    match increment with
    | some n =>
      let indent := least + n - 1
      let (breaks, after) := blockBreaks indent fuel c
      (indent, breaks, after)
    | none =>
      let (breaks, widest, after) := blockIndentation fuel 0 c
      (max least widest, breaks, after)
  let (text, lastBreak, lastBreaks, after) :=
    if c.column = indent ∧ c.peek 0 ≠ endMark then blockLines folded indent fuel breaks c
    else ([], [], breaks, c)
  let ending :=
    match chomping with
    | .strip => []
    | .clip => lastBreak
    | .keep => lastBreak ++ lastBreaks
  return (text ++ ending, after)

end WorkspacePolicy.Yaml
