/-
# CommandLine.Markup — style tags in printed texts

A printed text may hold style tags: a name in brackets opens a style, a name after a
slash closes the style of that name that was opened last, and a slash alone closes the
style that was opened last of all. Names that mean the same style close each other. A tag
begins with a small letter, `#`, `/` or `@`; other brackets are text. A backslash before a
bracket makes it text. After an equals sign a tag may have parameters.

What is printed without styles is the text without its tags, in which pictographs stand
for their names and controls that would move the cursor are left out. A tag that closes
nothing is a fault, and so are wrong parameters of an event tag, once it is closed, and a
colour with a number that is none.
-/
import WorkspacePolicy.CommandLine.StyleName
import WorkspacePolicy.CommandLine.TagParameters
import WorkspacePolicy.Text.Pictograph

namespace WorkspacePolicy.Markup

set_option autoImplicit false

/-- Why a text cannot be printed. -/
inductive Fault where
  /-- No tag is open where one is to be closed. -/
  | nothingToClose (position : Nat)
  /-- No tag of the name is open. -/
  | notOpen (tag : String) (position : Nat)
  /-- The parameters of an event tag are wrong. -/
  | parameters (message : String)
  /-- The name of a style holds a number that is none. -/
  | style (fault : StyleName.Fault)
  deriving DecidableEq, Repr

def Fault.message : Fault → String
  | .nothingToClose position =>
    s!"closing tag '[/]' at position {position} has nothing to close"
  | .notOpen tag position =>
    s!"closing tag '{tag}' at position {position} doesn't match any open tag"
  | .parameters message => message
  | .style fault => fault.message

/-! ## Parts of a text -/

/-- Bell, backspace, vertical tab, form feed and carriage return. -/
def isCursorControl (c : Char) : Bool :=
  c.toNat == 7 || c.toNat == 8 || c.toNat == 11 || c.toNat == 12 || c.toNat == 13

/-- A text without controls that move the cursor. -/
def stripControls (text : List Char) : List Char :=
  text.filter fun c => !isCursorControl c

/-- A character with which a tag may begin. -/
def opensTag (c : Char) : Bool :=
  ('a' ≤ c && c ≤ 'z') || c == '#' || c == '/' || c == '@'

/-- The inside of a tag, if one begins after the bracket, with what follows the tag. -/
def readTag? : List Char → Option (List Char × List Char)
  | [] => none
  | c :: rest =>
    if opensTag c then
      let inside := rest.takeWhile fun d => d != '[' && d != ']'
      match rest.drop inside.length with
      | ']' :: after => some (c :: inside, after)
      | _ => none
    else none

/-- A part of a text: characters, or the inside of a tag with the position of its bracket. -/
inductive Part where
  | plain (text : List Char)
  | tag (inside : List Char) (position : Nat)
  deriving DecidableEq, Repr

/-- Characters in front of other parts, if there are any. -/
def addPlain (text : List Char) (parts : List Part) : List Part :=
  if text.isEmpty then parts else .plain text :: parts

/-- The parts of a text from a position on. The characters since the last tag are in `before`, the
last one first; `fuel` bounds the steps. -/
def partsFrom : Nat → Nat → List Char → List Char → List Part
  | 0, _, before, text => addPlain (before.reverse ++ text) []
  | _, _, before, [] => addPlain before.reverse []
  | fuel + 1, position, before, c :: rest =>
    let slashes := ((c :: rest).takeWhile (· == '\\')).length
    match (c :: rest).drop slashes with
    | '[' :: inner =>
      match readTag? inner with
      | some (inside, after) =>
        let place := position + slashes
        let part := if slashes % 2 = 1 then .plain ('[' :: inside ++ [']']) else .tag inside place
        let next := partsFrom fuel (place + inside.length + 2) [] after
        addPlain before.reverse (addPlain (List.replicate (slashes / 2) '\\') (part :: next))
      | none =>
        let before := '[' :: (List.replicate slashes '\\' ++ before)
        partsFrom fuel (position + slashes + 1) before inner
    | _ => partsFrom fuel (position + 1) (c :: before) rest

/-- The parts of a text. -/
def parts (text : List Char) : List Part :=
  partsFrom (text.length + 1) 0 [] text

/-- A text in which a backslash before an opening bracket is left out. -/
def unescape : List Char → List Char
  | [] => []
  | '\\' :: '[' :: rest => '[' :: unescape rest
  | c :: rest => c :: unescape rest

/-- The characters of a part as they are printed. -/
def shownPlain (text : List Char) : List Char :=
  stripControls (Text.showPictographs (unescape text))

/-! ## Styles -/

/-- A tag that has opened a style: the normal form of its name, its parameters, and the number of
characters that are printed before it. -/
structure OpenTag where
  name : String
  parameters : Option String
  start : Nat
  deriving DecidableEq, Repr

namespace OpenTag

/-- The tag opens no style but waits for an event. -/
def isEvent (tag : OpenTag) : Bool :=
  tag.name.toList.head? == some '@'

/-- What is wrong with a tag once it is closed. -/
def closingFault? (tag : OpenTag) : Option Fault :=
  match tag.isEvent, tag.parameters with
  | true, some parameters =>
    if parameters.isEmpty then none
    else (TagParameters.fault? parameters).map .parameters
  | _, _ => none

/-- What is wrong with the style that name and parameters of a tag make together. -/
def styleFault? (tag : OpenTag) : Option Fault :=
  match tag.parameters with
  | none => none
  | some parameters =>
    match StyleName.normal (tag.name ++ " " ++ parameters) with
    | .ok _ => none
    | .error fault => some (.style fault)

end OpenTag

/-- What the parts of a text up to a place have printed and opened. -/
structure Progress where
  /-- The printed characters, the last one first. -/
  shown : List Char
  /-- The tags that are open, the last one first. -/
  opened : List OpenTag
  /-- The tags of styles that are closed, the last one first. -/
  closed : List OpenTag

/-- The normal form of the name in a tag. -/
def tagName (text : List Char) : Except Fault String :=
  match StyleName.normal (String.ofList text) with
  | .ok name => .ok name
  | .error fault => .error (.style fault)

/-- The tag of a name that was opened last, with the other tags. -/
def takeTag? (name : String) : List OpenTag → Option (OpenTag × List OpenTag)
  | [] => none
  | tag :: tags =>
    if tag.name = name then some (tag, tags)
    else (takeTag? name tags).map fun found => (found.1, tag :: found.2)

namespace Progress

def initial : Progress := ⟨[], [], []⟩

/-- Closes a tag, after which the others of `opened` are open. -/
def close (p : Progress) (tag : OpenTag) (opened : List OpenTag) : Except Fault Progress :=
  match tag.closingFault? with
  | some fault => .error fault
  | none => .ok { p with opened, closed := if tag.isEvent then p.closed else tag :: p.closed }

/-- Opens or closes what a tag says. -/
def applyTag (p : Progress) (inside : List Char) (position : Nat) : Except Fault Progress :=
  let name := inside.takeWhile (· != '=')
  match name with
  | '/' :: closing =>
    if closing.all Text.isBlank then
      match p.opened with
      | [] => .error (.nothingToClose position)
      | tag :: opened => p.close tag opened
    else do
      match takeTag? (← tagName closing) p.opened with
      | some (tag, opened) => p.close tag opened
      | none => throw (.notOpen (String.ofList ('[' :: inside ++ [']'])) position)
  | name => do
    let parameters := (inside.drop name.length).tail?.map String.ofList
    return { p with opened := ⟨← tagName name, parameters, p.shown.length⟩ :: p.opened }

/-- Prints a part. -/
def add (p : Progress) : Part → Except Fault Progress
  | .plain text => .ok { p with shown := (shownPlain text).reverse ++ p.shown }
  | .tag inside position => p.applyTag inside position

/-- All tags of styles, in the order in which their styles begin; of styles that begin together
that of the tag that was closed last is the first, and tags that were not closed come before. -/
def styles (p : Progress) : List OpenTag :=
  (p.opened.reverse ++ p.closed).mergeSort fun a b => a.start ≤ b.start

end Progress

/-- A text as it is printed. -/
def plain (text : String) : Except Fault String := do
  let p ← (parts text.toList).foldlM Progress.add .initial
  match p.styles.findSome? OpenTag.styleFault? with
  | some fault => throw fault
  | none => return String.ofList p.shown.reverse

end WorkspacePolicy.Markup
