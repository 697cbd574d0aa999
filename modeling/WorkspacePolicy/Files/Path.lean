/-
# Files.Path — places in the file system

A path is the list of names from the top of the file system down to a place. A text
names a place from a base: slashes separate its parts, empty parts and `.` stay where
they are, `..` goes one step up and stays at the top, and a text that begins with a
slash starts at the top. There are no symbolic links, so the text alone decides.
-/
import WorkspacePolicy.Text.Blank
import WorkspacePolicy.Text.Surrogate

namespace WorkspacePolicy

set_option autoImplicit false

/-- The names from the top of the file system down. -/
abbrev Path := List String

namespace Path

/-- The parts of a text between slashes. -/
def parts (text : String) : List String :=
  (Text.pieces '/' text.toList).map String.ofList

/-- The text begins at the top of the file system. -/
def isAbsoluteText (text : String) : Bool :=
  match text.toList with
  | '/' :: _ => true
  | _ => false

/-- Where one part of a text leads. -/
def step (place : Path) (part : String) : Path :=
  if part = "" ∨ part = "." then place
  else if part = ".." then place.dropLast
  else place ++ [part]

/-- The place that a text names from a base. -/
def resolve (base : Path) (text : String) : Path :=
  (parts text).foldl step (if isAbsoluteText text then [] else base)

/-- The text of a path. -/
def text (place : Path) : String :=
  "/" ++ "/".intercalate place

/-- The text holds no character that no name of a file has: a lone surrogate other than those
that stand for bytes. -/
def isEncodable (name : String) : Bool :=
  name.toList.all fun c => !Text.isLoneSurrogate c || Text.isByteSurrogate c

/-- The file system can take the text in a path: it can be encoded and holds no U+0000. -/
def isName (name : String) : Bool :=
  isEncodable name && !name.toList.contains '\x00'

/-- The number of bytes of a name. -/
def byteSize (name : String) : Nat :=
  name.toList.foldl (fun size c => size + if Text.isByteSurrogate c then 1 else c.utf8Size) 0

/-- The number of bytes of the text of a path. -/
def textByteSize (place : Path) : Nat :=
  max 1 (place.foldl (fun size name => size + 1 + byteSize name) 0)

/-- The names below `base`, for a place at `base` or inside it. -/
def below? : Path → Path → Option (List String)
  | [], place => some place
  | _ :: _, [] => none
  | name :: base, first :: place => if name = first then below? base place else none

/-- A relative path as a text; the base itself is `.`. -/
def relativeText (names : List String) : String :=
  if names.isEmpty then "." else "/".intercalate names

/-- The last name of a relative text, empty if it has none. -/
def lastName (text : String) : String :=
  (((parts text).filter fun part => part != "" && part != ".").getLast?).getD ""

end Path

end WorkspacePolicy
