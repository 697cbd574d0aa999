/-
# Files.Glob — patterns for paths

A path pattern is a sequence of segments between slashes; empty segments and `.` are
left out. A segment is `**`, which stands for a directory and all directories below
it, a name pattern, or a plain name, which may be `..`. All segments but the last
have to lead to directories, and so has the last one where the pattern ends in a
slash. Two stars may only stand alone in a segment.

`Glob.select` gives the matching places as the names that lead there from the base. It is
a fault where a plain name or a path is too long to be looked up.
-/
import WorkspacePolicy.Files.NamePattern
import WorkspacePolicy.Files.Tree
import WorkspacePolicy.Text.Order

namespace WorkspacePolicy

set_option autoImplicit false

/-- A segment of a path pattern. -/
inductive Glob.Segment where
  | descend
  | pattern (text : String)
  | name (text : String)
  deriving DecidableEq, Repr

/-- A path pattern; with `endsInSlash` it matches directories only. -/
structure Glob where
  segments : List Glob.Segment
  endsInSlash : Bool
  deriving DecidableEq, Repr

namespace Glob

/-- Why a text is no path pattern. -/
inductive Fault where
  | absolute
  | starsInName
  | noSegment (endsInSlash : Bool)
  deriving DecidableEq, Repr

def Fault.message : Fault → String
  | .absolute => "Non-relative patterns are unsupported"
  | .starsInName => "Invalid pattern: '**' can only be an entire path component"
  | .noSegment false => "tuple index out of range"
  | .noSegment true => "'_TerminatingSelector' object has no attribute 'select_from'"

/-- Two stars next to each other. -/
def hasDoubleStar : List Char → Bool
  | '*' :: '*' :: _ => true
  | _ :: rest => hasDoubleStar rest
  | [] => false

/-- The segment that a part of a pattern makes. -/
def segmentOf (part : String) : Except Fault Segment :=
  if part = "**" then .ok .descend
  else if hasDoubleStar part.toList then .error .starsInName
  else if NamePattern.hasWildcard part then .ok (.pattern part)
  else .ok (.name part)

/-- The path pattern that a text writes. -/
def parse (text : String) : Except Fault Glob := do
  if Path.isAbsoluteText text then throw .absolute
  let endsInSlash := text.toList.getLast? == some '/'
  let parts := (Path.parts text).filter fun part => part != "" && part != "."
  if parts.isEmpty then throw (.noSegment endsInSlash)
  return ⟨← parts.mapM segmentOf, endsInSlash⟩

mutual

/-- The directories inside a tree and the tree itself, as names that lead there. -/
def directories : FileTree → List (List String)
  | .file _ => []
  | .directory entries => [] :: entryDirectories entries
termination_by structural tree => tree

/-- The directories inside the entries of a directory. -/
def entryDirectories : List (String × FileTree) → List (List String)
  | [] => []
  | (name, tree) :: entries =>
    (directories tree).map (name :: ·) ++ entryDirectories entries
termination_by structural entries => entries

end

/-- A name can be looked up in the directory that the names `led` lead to from `base`. -/
def checkLength (base : Path) (led : List String) (name : String) : Except FileTree.Fault Unit :=
  if !Path.isName name then .ok ()
  else if FileTree.pathLimit < Path.textByteSize (base ++ led ++ [name]) then .error .unreadable
  else if FileTree.nameLimit < Path.byteSize name then .error .unreadable
  else .ok ()

/-- The places that the segments match, starting from the names `led` that led from `base` to
the directory `place`. -/
def selectFrom (tree : FileTree) (base : Path) (endsInSlash : Bool) :
    List Segment → List String → Path → Except FileTree.Fault (List (List String))
  | [], led, _ => .ok [led]
  | .name name :: rest, led, place => do
    checkLength base led name
    let next := Path.step place name
    let there :=
      if rest.isEmpty && !endsInSlash then tree.exists next else tree.isDirectoryAt next
    if there then selectFrom tree base endsInSlash rest (led ++ [name]) next else return []
  | .pattern pattern :: rest, led, place => do
    let entries := ((tree.find? place).map FileTree.entries).getD []
    let fitting := entries.filter fun (name, subtree) =>
      ((rest.isEmpty && !endsInSlash) || subtree.isDirectory) && NamePattern.matches pattern name
    let found ← fitting.mapM fun (name, _) =>
      selectFrom tree base endsInSlash rest (led ++ [name]) (place ++ [name])
    return found.flatten
  | .descend :: rest, led, place => do
    let starts := ((tree.find? place).map directories).getD []
    let found ← starts.mapM fun names =>
      selectFrom tree base endsInSlash rest (led ++ names) (place ++ names)
    return found.flatten

/-- The places below a directory that the pattern matches, in ascending order of their
names; a place may occur more than once. -/
def select (pattern : Glob) (tree : FileTree) (base : Path) :
    Except FileTree.Fault (List (List String)) := do
  let found ← selectFrom tree base pattern.endsInSlash pattern.segments [] base
  return found.mergeSort Text.leNames

end Glob

end WorkspacePolicy
