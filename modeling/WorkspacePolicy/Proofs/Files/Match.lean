/-
# Proofs.Files.Match — what a path pattern matches

A path pattern matches names if they can be followed from a place, segment by segment: a plain
name is a step, a name pattern stands for a name in the directory, and `**` for the names of
directories, one inside the other (`Glob.Leads`). Nothing is said about how they are found.

Where nothing is too long to be looked up, `Glob.select` gives the names that match and no others
(`mem_select`).
-/
import WorkspacePolicy.Files.Glob
import WorkspacePolicy.Proofs.Except

namespace WorkspacePolicy

set_option autoImplicit false

/-! ## Directories inside each other -/

/-- The names lead from a tree to a directory inside it, or to the tree itself. -/
inductive FileTree.HasDirectory : FileTree → List String → Prop
  | here (entries : List (String × FileTree)) : HasDirectory (.directory entries) []
  | inside {entries : List (String × FileTree)} {name : String} {tree : FileTree}
      {names : List String} (member : (name, tree) ∈ entries) (inner : HasDirectory tree names) :
      HasDirectory (.directory entries) (name :: names)

namespace Glob

mutual

theorem mem_directories (tree : FileTree) (names : List String) :
    names ∈ directories tree ↔ tree.HasDirectory names := by
  match tree with
  | .file content =>
      rw [directories]
      exact ⟨fun member => absurd member List.not_mem_nil, nofun⟩
  | .directory entries =>
      rw [directories, List.mem_cons, mem_entryDirectories entries names]
      constructor
      · rintro (rfl | ⟨name, tree, rest, rfl, member, inner⟩)
        · exact .here entries
        · exact .inside member inner
      · rintro (_ | ⟨member, inner⟩)
        · exact .inl rfl
        · exact .inr ⟨_, _, _, rfl, member, inner⟩
termination_by structural tree

theorem mem_entryDirectories (entries : List (String × FileTree)) (names : List String) :
    names ∈ entryDirectories entries ↔ ∃ name tree rest, names = name :: rest ∧
      (name, tree) ∈ entries ∧ tree.HasDirectory rest := by
  match entries with
  | [] =>
      rw [entryDirectories]
      simp
  | (name, tree) :: entries =>
      rw [entryDirectories, List.mem_append, List.mem_map, mem_entryDirectories entries names]
      constructor
      · rintro (⟨rest, member, rfl⟩ | ⟨other, subtree, rest, rfl, member, inner⟩)
        · exact ⟨name, tree, rest, rfl, List.mem_cons_self, (mem_directories tree rest).mp member⟩
        · exact ⟨other, subtree, rest, rfl, List.mem_cons_of_mem _ member, inner⟩
      · rintro ⟨other, subtree, rest, rfl, member, inner⟩
        rcases List.mem_cons.mp member with same | member
        · obtain ⟨rfl, rfl⟩ := Prod.mk.inj same.symm
          exact .inl ⟨rest, (mem_directories tree rest).mpr inner, rfl⟩
        · exact .inr ⟨other, subtree, rest, rfl, member, inner⟩
termination_by structural entries

end

/-! ## Matching -/

/-- The segments lead from a place over some names. All of them but the last lead to directories,
and so does the last one if the pattern ends in a slash. -/
inductive Leads (tree : FileTree) (endsInSlash : Bool) : List Segment → Path → List String → Prop
  | done (place : Path) : Leads tree endsInSlash [] place []
  | name {name : String} {rest : List Segment} {place : Path} {more : List String}
      (there : tree.exists (Path.step place name))
      (isOpen : tree.isDirectoryAt (Path.step place name) ∨ rest = [] ∧ endsInSlash = false)
      (further : Leads tree endsInSlash rest (Path.step place name) more) :
      Leads tree endsInSlash (.name name :: rest) place (name :: more)
  | pattern {pattern name : String} {rest : List Segment} {place : Path} {more : List String}
      {directory subtree : FileTree} (found : tree.find? place = some directory)
      (member : (name, subtree) ∈ directory.entries) (fits : NamePattern.matches pattern name)
      (isOpen : subtree.isDirectory ∨ rest = [] ∧ endsInSlash = false)
      (further : Leads tree endsInSlash rest (place ++ [name]) more) :
      Leads tree endsInSlash (.pattern pattern :: rest) place (name :: more)
  | descend {rest : List Segment} {place : Path} {names more : List String} {directory : FileTree}
      (found : tree.find? place = some directory) (inside : directory.HasDirectory names)
      (further : Leads tree endsInSlash rest (place ++ names) more) :
      Leads tree endsInSlash (.descend :: rest) place (names ++ more)

/-- The pattern matches the names that lead from a place. -/
def Matches (glob : Glob) (tree : FileTree) (place : Path) (names : List String) : Prop :=
  Leads tree glob.endsInSlash glob.segments place names

variable {tree : FileTree} {base place : Path} {endsInSlash : Bool} {names led : List String}

theorem exists_of_isDirectoryAt (there : tree.isDirectoryAt place) : tree.exists place := by
  unfold FileTree.isDirectoryAt at there
  unfold FileTree.exists
  cases found : tree.find? place with
  | none => simp [found] at there
  | some subtree => rfl

/-- A step over a plain name may be taken. -/
theorem mayStep_iff (rest : List Segment) :
    (if rest.isEmpty && !endsInSlash then tree.exists place else tree.isDirectoryAt place) = true ↔
      tree.exists place ∧ (tree.isDirectoryAt place ∨ rest = [] ∧ endsInSlash = false) := by
  split
  · next last =>
      simp only [Bool.and_eq_true, List.isEmpty_iff, Bool.not_eq_true'] at last
      exact ⟨fun there => ⟨there, .inr last⟩, And.left⟩
  · next inner =>
      simp only [Bool.and_eq_true, List.isEmpty_iff, Bool.not_eq_true'] at inner
      exact ⟨fun there => ⟨exists_of_isDirectoryAt there, .inl there⟩,
        fun there => there.2.resolve_right inner⟩

/-- The entries over which a name pattern leads. -/
theorem fitting_iff {pattern name : String} {rest : List Segment} {subtree : FileTree} :
    (name, subtree) ∈ (((tree.find? place).map FileTree.entries).getD []).filter (fun entry =>
        ((rest.isEmpty && !endsInSlash) || entry.2.isDirectory) &&
          NamePattern.matches pattern entry.1) ↔
      ∃ directory, tree.find? place = some directory ∧ (name, subtree) ∈ directory.entries ∧
        (subtree.isDirectory ∨ rest = [] ∧ endsInSlash = false) ∧
        NamePattern.matches pattern name := by
  cases found : tree.find? place with
  | none => simp
  | some directory => simp [or_comm]

theorem mem_starts {inner : List String} :
    inner ∈ ((tree.find? place).map directories).getD [] ↔
      ∃ directory, tree.find? place = some directory ∧ directory.HasDirectory inner := by
  cases found : tree.find? place with
  | none => simp
  | some directory => simp [mem_directories]

/-- From the names that led to a place on, exactly those are found over which the segments lead. -/
def FindsLed (tree : FileTree) (base : Path) (endsInSlash : Bool) (segments : List Segment) : Prop :=
  ∀ {led place found}, selectFrom tree base endsInSlash segments led place = .ok found →
    ∀ names, names ∈ found ↔ ∃ more, names = led ++ more ∧
      Leads tree endsInSlash segments place more

theorem findsLed_nil : FindsLed tree base endsInSlash [] := by
  intro led place found given names
  obtain rfl := Except.ok.inj given
  rw [List.mem_singleton]
  constructor
  · rintro rfl
    exact ⟨[], (List.append_nil _).symm, .done place⟩
  · rintro ⟨more, rfl, ⟨⟩⟩
    exact List.append_nil led

section

variable {rest : List Segment}

theorem FindsLed.name (later : FindsLed tree base endsInSlash rest) (name : String) :
    FindsLed tree base endsInSlash (.name name :: rest) := by
  intro led place found given names
  unfold selectFrom at given
  obtain ⟨-, -, given⟩ := of_bind_eq_ok given
  simp only [] at given
  by_cases there : (if rest.isEmpty && !endsInSlash then tree.exists (place.step name)
    else tree.isDirectoryAt (place.step name)) = true
  · rw [if_pos there] at given
    obtain ⟨there, isOpen⟩ := (mayStep_iff rest).mp there
    rw [later given]
    constructor
    · rintro ⟨more, rfl, further⟩
      exact ⟨name :: more, (List.append_cons ..).symm, .name there isOpen further⟩
    · rintro ⟨_, rfl, _ | ⟨there, isOpen, further⟩⟩
      exact ⟨_, List.append_cons .., further⟩
  · rw [if_neg there] at given
    obtain rfl := Except.ok.inj given
    refine ⟨fun member => absurd member List.not_mem_nil, ?_⟩
    rintro ⟨_, rfl, _ | ⟨isThere, isOpen, further⟩⟩
    exact absurd ((mayStep_iff rest).mpr ⟨isThere, isOpen⟩) there

theorem FindsLed.pattern (later : FindsLed tree base endsInSlash rest) (pattern : String) :
    FindsLed tree base endsInSlash (.pattern pattern :: rest) := by
  intro led place found given names
  unfold selectFrom at given
  obtain ⟨lists, each, given⟩ := of_bind_eq_ok given
  obtain rfl := Except.ok.inj given
  rw [mem_flatten_of_mapM each]
  constructor
  · rintro ⟨⟨name, subtree⟩, member, found, given, listed⟩
    obtain ⟨more, rfl, further⟩ := (later given names).mp listed
    obtain ⟨directory, there, inside, isOpen, fits⟩ := fitting_iff.mp member
    exact ⟨name :: more, (List.append_cons ..).symm, .pattern there inside fits isOpen further⟩
  · rintro ⟨_, rfl, _ | _ | ⟨there, inside, fits, isOpen, further⟩⟩
    have member := fitting_iff.mpr ⟨_, there, inside, isOpen, fits⟩
    obtain ⟨found, given⟩ := passes_of_mapM each _ member
    exact ⟨_, member, found, given, (later given _).mpr ⟨_, List.append_cons .., further⟩⟩

theorem FindsLed.descend (later : FindsLed tree base endsInSlash rest) :
    FindsLed tree base endsInSlash (.descend :: rest) := by
  intro led place found given names
  unfold selectFrom at given
  obtain ⟨lists, each, given⟩ := of_bind_eq_ok given
  obtain rfl := Except.ok.inj given
  rw [mem_flatten_of_mapM each]
  constructor
  · rintro ⟨inner, member, found, given, listed⟩
    obtain ⟨more, rfl, further⟩ := (later given names).mp listed
    obtain ⟨directory, there, inside⟩ := mem_starts.mp member
    exact ⟨inner ++ more, List.append_assoc .., .descend there inside further⟩
  · rintro ⟨_, rfl, _ | _ | _ | ⟨there, inside, further⟩⟩
    have member := mem_starts.mpr ⟨_, there, inside⟩
    obtain ⟨found, given⟩ := passes_of_mapM each _ member
    exact ⟨_, member, found, given, (later given _).mpr ⟨_, (List.append_assoc ..).symm, further⟩⟩

end

theorem findsLed (segments : List Segment) : FindsLed tree base endsInSlash segments := by
  induction segments with
  | nil => exact findsLed_nil
  | cons segment rest ih =>
      cases segment with
      | name name => exact ih.name name
      | pattern pattern => exact ih.pattern pattern
      | descend => exact ih.descend

/-- **A pattern selects the names that it matches**, unless something is too long. -/
theorem mem_select {glob : Glob} {found : List (List String)}
    (given : glob.select tree base = .ok found) : names ∈ found ↔ glob.Matches tree base names := by
  unfold select at given
  obtain ⟨selected, givenFrom, given⟩ := of_bind_eq_ok given
  obtain rfl := Except.ok.inj given
  rw [List.mem_mergeSort, findsLed _ givenFrom]
  simp [Matches]

end Glob

end WorkspacePolicy
