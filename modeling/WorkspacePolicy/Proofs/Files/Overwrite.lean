/-
# Proofs.Files.Overwrite — a file with other content

Writing other bytes to a file leaves everything else in the tree as it is: what is there, which of
it is a directory, and the texts of all other files (`readText_overwrite`). So path patterns, which
look at names only, select the same places (`select_overwrite`).
-/
import WorkspacePolicy.Files.Glob
import WorkspacePolicy.Proofs.Files.Place

namespace WorkspacePolicy

set_option autoImplicit false

namespace FileTree

/-- The tree with other bytes in the file at a path; where no file is, nothing changes. -/
def overwrite (content : ByteArray) : Path → FileTree → FileTree
  | [], .file _ => .file content
  | [], .directory entries => .directory entries
  | _ :: _, .file old => .file old
  | name :: rest, .directory entries => .directory (entries.map fun entry =>
      (entry.1, if entry.1 = name then overwrite content rest entry.2 else entry.2))

variable {content : ByteArray} {tree : FileTree} {name : String} {place path rest : Path}

@[simp] theorem isDirectory_overwrite :
    (overwrite content path tree).isDirectory = tree.isDirectory := by
  cases path <;> cases tree <;> rfl

/-- Names stay, and so does what is a directory. -/
theorem entries_overwrite : (overwrite content path tree).entries =
    match path with
    | [] => tree.entries
    | name :: rest => tree.entries.map fun entry =>
        (entry.1, if entry.1 = name then overwrite content rest entry.2 else entry.2) := by
  cases path <;> cases tree <;> rfl

theorem child?_overwrite (first : String) (rest : Path) (name : String) :
    (overwrite content (first :: rest) tree).child? name =
      (tree.child? name).map fun subtree =>
        if name = first then overwrite content rest subtree else subtree := by
  unfold child?
  rw [entries_overwrite]
  simp only [List.find?_map, Function.comp_def]
  cases found : tree.entries.find? fun entry => entry.1 == name with
  | none => rfl
  | some entry =>
      have called : entry.1 = name := by simpa using List.find?_some found
      simp [called]

/-- Whatever is there is still there; only what is on the way to the file has been changed. -/
theorem find?_overwrite (path place : Path) (tree : FileTree) :
    (overwrite content path tree).find? place =
      (tree.find? place).map fun subtree =>
        match Path.below? place path with
        | some rest => overwrite content rest subtree
        | none => subtree := by
  induction place generalizing path tree with
  | nil => rfl
  | cons name place ih =>
      cases path with
      | nil =>
          cases tree with
          | file old => rfl
          | directory entries => simp [overwrite, Path.below?]
      | cons first rest =>
          rw [find?, child?_overwrite, find?]
          cases child : tree.child? name with
          | none => rfl
          | some subtree =>
              simp only [Option.map_some, Path.below?]
              split
              · exact ih rest subtree
              · simp

theorem exists_overwrite (path place : Path) (tree : FileTree) :
    (overwrite content path tree).exists place = tree.exists place := by
  simp only [«exists», find?_overwrite, Option.isSome_map]

theorem isDirectoryAt_overwrite (path place : Path) (tree : FileTree) :
    (overwrite content path tree).isDirectoryAt place = tree.isDirectoryAt place := by
  unfold isDirectoryAt
  rw [find?_overwrite]
  cases tree.find? place with
  | none => rfl
  | some subtree =>
      simp only [Option.map_some]
      split <;> simp

/-- **Only the file itself has another text.** -/
theorem readText_overwrite {path place : Path} (elsewhere : place ≠ path) (tree : FileTree) :
    (overwrite content path tree).readText place = tree.readText place := by
  unfold readText
  rw [find?_overwrite]
  cases tree.find? place with
  | none => rfl
  | some subtree =>
      cases below : Path.below? place path with
      | none => simp only [Option.map_some]
      | some rest =>
          cases rest with
          | nil => exact absurd (by simpa using (Path.eq_append_of_below? below).symm) elsewhere
          | cons name rest => cases subtree <;> simp only [Option.map_some, overwrite]

/-! ## Names and directories -/

mutual

theorem hasProperNames_overwrite (path : Path) (tree : FileTree) :
    (overwrite content path tree).hasProperNames = tree.hasProperNames := by
  match path, tree with
  | [], .file _ | [], .directory _ | _ :: _, .file _ => rfl
  | name :: rest, .directory entries =>
      rw [overwrite, hasProperNames, hasProperNames, haveProperNames_overwrite name rest entries]
termination_by structural tree

theorem haveProperNames_overwrite (name : String) (rest : Path)
    (entries : List (String × FileTree)) :
    haveProperNames (entries.map fun entry =>
      (entry.1, if entry.1 = name then overwrite content rest entry.2 else entry.2)) =
        haveProperNames entries := by
  match entries with
  | [] => rfl
  | (other, tree) :: entries =>
      rw [List.map_cons, haveProperNames, haveProperNames,
        haveProperNames_overwrite name rest entries]
      split
      · rw [hasProperNames_overwrite rest tree]
      · rfl
termination_by structural entries

end

/-- The names in a directory, each with whether it is the name of a directory. -/
def kinds (tree : FileTree) : List (String × Bool) :=
  tree.entries.map fun entry => (entry.1, entry.2.isDirectory)

theorem kinds_overwrite (path : Path) (tree : FileTree) :
    (overwrite content path tree).kinds = tree.kinds := by
  unfold kinds
  rw [entries_overwrite]
  cases path with
  | nil => rfl
  | cons name rest =>
      simp only [List.map_map]
      refine List.map_congr_left fun entry _ => ?_
      simp only [Function.comp_apply]
      split <;> simp

theorem kindsAt_overwrite (path place : Path) (tree : FileTree) :
    ((overwrite content path tree).find? place).map kinds = (tree.find? place).map kinds := by
  rw [find?_overwrite]
  cases tree.find? place with
  | none => rfl
  | some subtree =>
      simp only [Option.map_some]
      split
      · rw [kinds_overwrite]
      · rfl

end FileTree

namespace Glob

open FileTree

variable {content : ByteArray}

mutual

theorem directories_overwrite (path : Path) (tree : FileTree) :
    directories (overwrite content path tree) = directories tree := by
  match path, tree with
  | [], .file _ | [], .directory _ | _ :: _, .file _ => rfl
  | name :: rest, .directory entries =>
      rw [overwrite, directories, directories, entryDirectories_overwrite name rest entries]
termination_by structural tree

theorem entryDirectories_overwrite (name : String) (rest : Path)
    (entries : List (String × FileTree)) :
    entryDirectories (entries.map fun entry =>
      (entry.1, if entry.1 = name then overwrite content rest entry.2 else entry.2)) =
        entryDirectories entries := by
  match entries with
  | [] => rfl
  | (other, tree) :: entries =>
      rw [List.map_cons, entryDirectories, entryDirectories,
        entryDirectories_overwrite name rest entries]
      split
      · rw [directories_overwrite rest tree]
      · rfl
termination_by structural entries

end

theorem directoriesAt_overwrite (path place : Path) (tree : FileTree) :
    ((overwrite content path tree).find? place).map directories =
      (tree.find? place).map directories := by
  rw [find?_overwrite]
  cases tree.find? place with
  | none => rfl
  | some subtree =>
      simp only [Option.map_some]
      split
      · rw [directories_overwrite]
      · rfl

/-- A name pattern looks at names and at which of them are directories. -/
theorem selectFrom_pattern (tree : FileTree) (base : Path) (endsInSlash : Bool) (pattern : String)
    (rest : List Segment) (led : List String) (place : Path) :
    selectFrom tree base endsInSlash (.pattern pattern :: rest) led place = (do
      let fitting := (((tree.find? place).map kinds).getD []).filter fun (name, isDirectory) =>
        ((rest.isEmpty && !endsInSlash) || isDirectory) && NamePattern.matches pattern name
      let found ← fitting.mapM fun (name, _) =>
        selectFrom tree base endsInSlash rest (led ++ [name]) (place ++ [name])
      return found.flatten) := by
  rw [selectFrom]
  cases tree.find? place with
  | none => rfl
  | some directory =>
      simp only [Option.map_some, Option.getD_some, kinds, List.filter_map, List.mapM_map]
      rfl

/-- **A pattern does not look into files.** -/
theorem selectFrom_overwrite (path base : Path) (endsInSlash : Bool) (tree : FileTree)
    (segments : List Segment) (led : List String) (place : Path) :
    selectFrom (overwrite content path tree) base endsInSlash segments led place =
      selectFrom tree base endsInSlash segments led place := by
  induction segments generalizing led place with
  | nil => rfl
  | cons segment rest ih =>
      cases segment with
      | name name => simp only [selectFrom, exists_overwrite, isDirectoryAt_overwrite, ih]
      | pattern pattern => simp only [selectFrom_pattern, kindsAt_overwrite, ih]
      | descend => simp only [selectFrom, directoriesAt_overwrite, ih]

theorem select_overwrite (glob : Glob) (path base : Path) (tree : FileTree) :
    glob.select (overwrite content path tree) base = glob.select tree base := by
  simp only [select, selectFrom_overwrite]

end Glob

end WorkspacePolicy
