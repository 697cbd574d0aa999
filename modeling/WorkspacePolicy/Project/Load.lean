/-
# Project.Load — finding the workspaces of a project

The manifest at the root of a project lists path patterns, under `workspaces` or under
`packages` inside it. A workspace is the root, or a directory that a pattern matches
and that holds a manifest. The root comes first and the others follow by path; a
directory that is matched more than once is one workspace.

Loading stops at the first fault: the root, then the patterns in their order, the
matches of a pattern in ascending order, and last the settings.
-/
import WorkspacePolicy.Files.Glob
import WorkspacePolicy.Json.Reader
import WorkspacePolicy.Project.Basic

namespace WorkspacePolicy.Project

set_option autoImplicit false

/-- The name of the file that makes a directory a package. -/
def manifestName : String := "package.json"

/-- Why a project cannot be loaded. -/
inductive Fault where
  | noManifest (root : Path)
  | file (fault : FileTree.Fault)
  | invalidJson (file : String) (error : Json.ReadError)
  | notAnObject (file : String)
  | manifest (fault : Manifest.Fault)
  | patternsNotAList
  | pattern (fault : Glob.Fault)
  | outside (place root : Path)
  | configuration (fault : Configuration.Fault)
  deriving DecidableEq, Repr

/-- The members of the manifest in a directory that is called `name` in messages. -/
def readManifestFields (tree : FileTree) (place : Path) (name : String) :
    Except Fault (List (String × Json)) :=
  let file := s!"{name}/{manifestName}"
  match tree.readText (place ++ [manifestName]) with
  | .error fault => .error (.file fault)
  | .ok text =>
    match Json.read false text with
    | .error error => .error (.invalidJson file error)
    | .ok (.object members) => .ok members
    | .ok _ => .error (.notAnObject file)

/-- The workspace in the directory that `names` lead to from the root. -/
def loadWorkspace (tree : FileTree) (root : Path) (names : List String) :
    Except Fault Workspace := do
  let place := names.foldl Path.step root
  let fields ← readManifestFields tree place (Path.text (root ++ names))
  let manifest ←
    match Manifest.ofFields fields with
    | .ok manifest => Except.ok manifest
    | .error fault => Except.error (.manifest fault)
  match Path.below? root place with
  | none => .error (.outside place root)
  | some below => return .ofManifest (Path.relativeText below) manifest

/-- The value that lists the path patterns of a manifest; `null` if there is none. -/
def patternList (fields : List (String × Json)) : Json :=
  match Entries.find? "workspaces" fields with
  | none => Json.null
  | some (.object members) => (Entries.find? "packages" members).getD Json.null
  | some value => value

/-- A path pattern: a text that is not blank. -/
def patternText? : Json → Option String
  | .string s => if Text.isBlankText s then none else some s
  | _ => none

/-- The path patterns that the members of a manifest list. Items that are no texts, or blank
ones, do not count. -/
def patterns (fields : List (String × Json)) : Except Fault (List String) :=
  let listed := patternList fields
  if listed.isEmpty then .ok []
  else
    match listed with
    | .array items => .ok (items.filterMap patternText?)
    | _ => .error .patternsNotAList

/-- Adds a workspace unless its path is taken. -/
def addWorkspace (found : List Workspace) (workspace : Workspace) : List Workspace :=
  if found.any (·.place == workspace.place) then found else found ++ [workspace]

/-- The directories with a manifest that a pattern matches, as names that lead there. -/
def candidates (tree : FileTree) (root : Path) (pattern : Glob) :
    Except FileTree.Fault (List (List String)) := do
  let found ← pattern.select tree root
  return found.filter fun names =>
    let place := names.foldl Path.step root
    tree.isDirectoryAt place && tree.exists (place ++ [manifestName])

/-- Adds the workspaces that lead to the given names. -/
def addCandidates (tree : FileTree) (root : Path) :
    List Workspace → List (List String) → Except Fault (List Workspace)
  | found, [] => .ok found
  | found, names :: rest => do
    let workspace ← loadWorkspace tree root names
    addCandidates tree root (addWorkspace found workspace) rest

/-- Adds the workspaces that the patterns match. -/
def addPatterns (tree : FileTree) (root : Path) :
    List Workspace → List String → Except Fault (List Workspace)
  | found, [] => .ok found
  | found, pattern :: rest => do
    match Glob.parse pattern with
    | .error fault => .error (.pattern fault)
    | .ok glob =>
      match candidates tree root glob with
      | .error fault => .error (.file fault)
      | .ok candidates =>
        let found ← addCandidates tree root found candidates
        addPatterns tree root found rest

/-- The root comes first and the others by path. -/
def placeLe (a b : Workspace) : Bool :=
  a.place == "." || (b.place != "." && Text.le a.place b.place)

/-- The project at `root`. -/
def load (tree : FileTree) (root : Path) : Except Fault Project := do
  if !tree.exists (root ++ [manifestName]) then throw (.noManifest root)
  let top ← loadWorkspace tree root []
  let patterns ← patterns top.manifest.fields
  let found ← addPatterns tree root [top] patterns
  let configuration ←
    match Configuration.load tree root with
    | .ok configuration => Except.ok configuration
    | .error fault => Except.error (.configuration fault)
  return ⟨root, configuration, found.mergeSort placeLe⟩

end WorkspacePolicy.Project
