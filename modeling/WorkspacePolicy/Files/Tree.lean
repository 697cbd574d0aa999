/-
# Files.Tree — a tree of files

A tree is a file with its bytes or a directory of named trees. Reading a text takes a
file whose bytes are UTF-8 and gives it with unified line ends.

A path is looked up name by name. It is a fault to look up a path that is too long as a
whole, or a name that is too long in a directory that is there; whatever else is not there
is no fault.
-/
import WorkspacePolicy.Files.Path
import WorkspacePolicy.Text.Lines

namespace WorkspacePolicy

set_option autoImplicit false

/-- A file or a directory. -/
inductive FileTree where
  | file (content : ByteArray)
  | directory (entries : List (String × FileTree))
  deriving Inhabited

namespace FileTree

/-- Why a file has no text. -/
inductive Fault where
  | unreadable
  | undecodable
  deriving DecidableEq, Repr

def isDirectory : FileTree → Bool
  | .directory _ => true
  | .file _ => false

/-- The entries of a directory; a file has none. -/
def entries : FileTree → List (String × FileTree)
  | .directory entries => entries
  | .file _ => []

/-- The tree of the given name in a directory. -/
def child? (tree : FileTree) (name : String) : Option FileTree :=
  match tree.entries.find? fun entry => entry.1 == name with
  | some entry => some entry.2
  | none => none

/-- The tree at a path. -/
def find? (tree : FileTree) : Path → Option FileTree
  | [] => some tree
  | name :: rest =>
    match tree.child? name with
    | some subtree => subtree.find? rest
    | none => none

/-- There is a file or a directory at a path. -/
def «exists» (tree : FileTree) (place : Path) : Bool :=
  (tree.find? place).isSome

/-- The greatest number of bytes that a name may have. -/
def nameLimit : Nat := 255

/-- The greatest number of bytes that the text of a path may have. -/
def pathLimit : Nat := 4095

/-- The tree that names lead to, one after the other. -/
def lookUpNames (tree : FileTree) : Path → Except Fault (Option FileTree)
  | [] => .ok (some tree)
  | name :: rest =>
    if !tree.isDirectory then .ok none
    else if nameLimit < Path.byteSize name then .error .unreadable
    else
      match tree.child? name with
      | some subtree => subtree.lookUpNames rest
      | none => .ok none

/-- The tree at a path, where what cannot be a name is not there. -/
def lookUp (tree : FileTree) (place : Path) : Except Fault (Option FileTree) :=
  if !place.all Path.isName then .ok none
  else if pathLimit < Path.textByteSize place then .error .unreadable
  else tree.lookUpNames place

/-- There is a directory at a path. -/
def isDirectoryAt (tree : FileTree) (place : Path) : Bool :=
  match tree.find? place with
  | some subtree => subtree.isDirectory
  | none => false

/-- The place that names lead to from a directory, where every name but the last must name a
directory and `..` goes up: unlike the path of a text, it has to be there. -/
def walk? (tree : FileTree) : Path → List String → Option Path
  | place, [] => some place
  | place, name :: rest =>
    if tree.isDirectoryAt place then
      let next := Path.step place name
      if tree.exists next then tree.walk? next rest else none
    else none

/-- The text of the file at a path. -/
def readText (tree : FileTree) (place : Path) : Except Fault String :=
  match tree.find? place with
  | some (.file content) =>
    match String.fromUTF8? content with
    | some text => .ok (String.ofList (Text.unifyLineEnds text.toList))
    | none => .error .undecodable
  | _ => .error .unreadable

/-- Puts a tree at a path and makes the directories on the way; a file on the way gives way
to a directory. -/
def insert (tree : FileTree) (subtree : FileTree) : Path → FileTree
  | [] => subtree
  | name :: rest =>
    let old := (tree.child? name).getD (.directory [])
    let others := tree.entries.filter fun entry => entry.1 != name
    .directory (others ++ [(name, old.insert subtree rest)])

end FileTree

end WorkspacePolicy
