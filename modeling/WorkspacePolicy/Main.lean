/-
# Main — the program

The program reads the project from the disk into a file tree, runs the call on it and
prints what the call leaves behind. Of the files it reads those that a project is made
of: manifests, settings and rules. Symbolic links are passed over. Nothing answers behind
the bridge here, so every goal of the built-in engine fails.
-/
import WorkspacePolicy.CommandLine.Run
import WorkspacePolicy.Engine.Backend

namespace WorkspacePolicy.Disk

set_option autoImplicit false

/-- The content of a file of this name belongs to a project. -/
def isRead (name : String) : Bool :=
  name == Project.manifestName || name == Configuration.fileName

/-- The tree at a place of the disk. -/
partial def readTree (place name : String) : IO FileTree := do
  let here ← IO.FS.realPath place
  if here.toString != place then return .directory []
  if ← here.isDir then
    let entries ← here.readDir
    let found ← entries.toList.mapM fun entry => do
      let path := s!"{place}/{entry.fileName}"
      let real ← IO.FS.realPath path
      if real.toString == path then
        return [(entry.fileName, ← readTree path entry.fileName)]
      else return []
    return .directory found.flatten
  else if isRead name then return .file (← IO.FS.readBinFile place)
  else return .file ByteArray.empty

/-- The tree with the directory of the project in it, if that is there. -/
def addProject (tree : FileTree) (root : Path) : IO FileTree := do
  let place := Path.text root
  try
    return tree.insert (← readTree place (root.getLast?.getD "")) root
  catch _ => return tree

/-- The tree with the rules of the project in it, if they are there. -/
def addRules (tree : FileTree) (root : Path) : IO FileTree := do
  match Configuration.load tree root with
  | .error _ => return tree
  | .ok configuration =>
    try
      let content ← IO.FS.readBinFile (Path.text configuration.rules)
      return tree.insert (.file content) configuration.rules
    catch _ => return tree

/-- The directory of the project that the arguments name, whether it is there or not. -/
def namedRoot (directory : Path) (args : List String) : Path :=
  match (CommandLine.Call.parse args).bind (·.directory) with
  | some text => Path.resolve directory text
  | none => directory

end WorkspacePolicy.Disk

open WorkspacePolicy in
def main (args : List String) : IO UInt32 := do
  let directory := Path.resolve [] (← IO.currentDir).toString
  let root := Disk.namedRoot directory args
  let empty := FileTree.insert (.directory []) (.directory []) directory
  let tree ← Disk.addRules (← Disk.addProject empty root) root
  let place : CommandLine.Place Backend := ⟨tree, directory, Backend.registry⟩
  let (report, _) := (CommandLine.run place args).run (.initial (.initial []))
  IO.print report.out
  IO.eprint report.err
  match report.raised with
  | some trouble => IO.eprintln trouble.message
  | none => pure ()
  return UInt32.ofNat report.exitCode
