/-
# Proofs.Project.Matched — the workspaces that patterns match

A directory has one workspace, over whatever names it is reached (`loadWorkspace_of_place`), and
no two directories have workspaces with one place (`eq_of_loadWorkspace`). The workspaces of a
pattern are those of the directories with a manifest that it matches (`mem_matched`).

Every pattern is looked up before it matters what the others have found (`addPatterns_eq`), and of
workspaces with one place it does not matter which is kept, since they are the same
(`mem_foldl_addWorkspace`).
-/
import WorkspacePolicy.Proofs.Files.Match
import WorkspacePolicy.Proofs.Project.Loaded

namespace WorkspacePolicy

set_option autoImplicit false

namespace Project

variable {tree : FileTree} {root : Path} {names : List String} {v w : Workspace}

/-! ## One workspace -/

/-- What is read from a manifest does not depend on what its directory is called in messages. -/
theorem readManifestFields_of_ok {place : Path} {name : String} {fields : List (String × Json)}
    (read : readManifestFields tree place name = .ok fields) (other : String) :
    readManifestFields tree place other = .ok fields := by
  unfold readManifestFields at read ⊢
  cases text : tree.readText (place ++ [manifestName]) with
  | error fault => simp [text] at read
  | ok chars =>
      simp only [text] at read ⊢
      cases value : Json.read false chars with
      | error fault => simp [value] at read
      | ok json => cases json <;> simp_all

theorem loadWorkspace_eq_ok (loaded : loadWorkspace tree root names = .ok w) :
    ∃ fields manifest below,
      readManifestFields tree (names.foldl Path.step root) (Path.text (root ++ names)) = .ok fields ∧
      Manifest.ofFields fields = .ok manifest ∧ names.foldl Path.step root = root ++ below ∧
      w = .ofManifest (Path.relativeText below) manifest := by
  unfold loadWorkspace at loaded
  obtain ⟨fields, read, loaded⟩ := of_bind_eq_ok loaded
  cases made : Manifest.ofFields fields with
  | error fault =>
      simp only [made] at loaded
      cases loaded
  | ok manifest =>
  cases under : Path.below? root (names.foldl Path.step root) with
  | none =>
      simp only [made, under] at loaded
      cases loaded
  | some below =>
      simp only [made, under] at loaded
      exact ⟨fields, manifest, below, read, made, Path.eq_append_of_below? under,
        (Except.ok.inj loaded).symm⟩

/-- Names that lead to the same directory give the same workspace. -/
theorem loadWorkspace_of_place {others : List String}
    (same : others.foldl Path.step root = names.foldl Path.step root)
    (loaded : loadWorkspace tree root names = .ok w) : loadWorkspace tree root others = .ok w := by
  obtain ⟨fields, manifest, below, read, made, under, rfl⟩ := loadWorkspace_eq_ok loaded
  have located : Path.below? root (others.foldl Path.step root) = some below := by
    rw [same, under, Path.below?_append]
  refine loadWorkspace_of_read ?_ made located rfl
  rw [same]
  exact readManifestFields_of_ok read _

/-- Workspaces that were loaded from directories with one path are the same. -/
theorem eq_of_loadWorkspace {others : List String} (proper : tree.hasProperNames)
    (there : tree.exists (names.foldl Path.step root))
    (there' : tree.exists (others.foldl Path.step root))
    (loaded : loadWorkspace tree root names = .ok v)
    (loaded' : loadWorkspace tree root others = .ok w) (same : v.place = w.place) : v = w := by
  obtain ⟨_, _, below, -, -, under, made⟩ := loadWorkspace_eq_ok loaded
  obtain ⟨_, _, below', -, -, under', made'⟩ := loadWorkspace_eq_ok loaded'
  have properBelow : ∀ {place more : Path}, tree.exists place → place = root ++ more →
      ∀ n ∈ more, Path.isProper n := by
    intro place more there under n member
    obtain ⟨subtree, found⟩ := Option.isSome_iff_exists.mp there
    exact FileTree.isProper_of_find? proper found n (under ▸ List.mem_append_right root member)
  have texts : Path.relativeText below = Path.relativeText below' := by
    rw [made, made'] at same
    exact same
  obtain rfl := Path.relativeText_injective (properBelow there under) (properBelow there' under') texts
  have alike := loadWorkspace_of_place (under'.trans under.symm) loaded
  exact Except.ok.inj (alike.symm.trans loaded')

/-! ## The workspaces that patterns match -/

/-- The pattern matches a directory with a manifest, over these names. -/
structure FoundBy (tree : FileTree) (root : Path) (pattern : String) (names : List String) :
    Prop where
  fits : ∃ glob, Glob.parse pattern = .ok glob ∧ glob.Matches tree root names
  isDirectory : tree.isDirectoryAt (names.foldl Path.step root)
  hasManifest : tree.exists (names.foldl Path.step root ++ [manifestName])

/-- The directories with a manifest that a pattern matches, as names that lead there. -/
def directoriesOf (tree : FileTree) (root : Path) (pattern : String) :
    Except Fault (List (List String)) := do
  let glob ← (Glob.parse pattern).mapError .pattern
  (candidates tree root glob).mapError .file

/-- The workspaces in the directories that a pattern matches. -/
def matched (tree : FileTree) (root : Path) (pattern : String) : Except Fault (List Workspace) := do
  (← directoriesOf tree root pattern).mapM (loadWorkspace tree root)

theorem mem_directoriesOf {pattern : String} {found : List (List String)}
    (given : directoriesOf tree root pattern = .ok found) :
    names ∈ found ↔ FoundBy tree root pattern names := by
  obtain ⟨glob, parsed, given⟩ := of_bind_eq_ok given
  have parsed := mapError_eq_ok_iff.mp parsed
  obtain ⟨selected, select, given⟩ := of_bind_eq_ok (mapError_eq_ok_iff.mp given)
  obtain rfl := Except.ok.inj given
  rw [List.mem_filter, Glob.mem_select select, Bool.and_eq_true]
  constructor
  · rintro ⟨fits, isDirectory, hasManifest⟩
    exact ⟨⟨glob, parsed, fits⟩, isDirectory, hasManifest⟩
  · rintro ⟨⟨other, same, fits⟩, isDirectory, hasManifest⟩
    obtain rfl := Except.ok.inj (parsed.symm.trans same)
    exact ⟨fits, isDirectory, hasManifest⟩

theorem mem_matched {pattern : String} {found : List Workspace}
    (given : matched tree root pattern = .ok found) (w : Workspace) :
    w ∈ found ↔ ∃ names, FoundBy tree root pattern names ∧ loadWorkspace tree root names = .ok w := by
  obtain ⟨listed, directories, each⟩ := of_bind_eq_ok given
  simp only [mem_mapM_iff each, mem_directoriesOf directories]

/-- Where a pattern can be looked up, all directories that it finds can be loaded. -/
theorem loads_of_matched {pattern : String} {found : List Workspace}
    (given : matched tree root pattern = .ok found) (foundBy : FoundBy tree root pattern names) :
    ∃ w, loadWorkspace tree root names = .ok w := by
  obtain ⟨listed, directories, each⟩ := of_bind_eq_ok given
  exact passes_of_mapM each names ((mem_directoriesOf directories).mpr foundBy)

/-! ## Adding what was found -/

theorem addCandidates_eq (found : List Workspace) (listed : List (List String)) :
    addCandidates tree root found listed =
      (listed.mapM (loadWorkspace tree root)).map fun more => more.foldl addWorkspace found := by
  induction listed generalizing found with
  | nil => rfl
  | cons names rest ih =>
      rw [addCandidates, List.mapM_cons]
      cases loadWorkspace tree root names with
      | error fault => rfl
      | ok workspace =>
          rw [ok_bind, ok_bind, ih]
          cases rest.mapM (loadWorkspace tree root) <;> rfl

theorem addPatterns_cons (found : List Workspace) (pattern : String) (rest : List String) :
    addPatterns tree root found (pattern :: rest) = (do
      let more ← matched tree root pattern
      addPatterns tree root (more.foldl addWorkspace found) rest) := by
  rw [addPatterns, matched, directoriesOf]
  cases Glob.parse pattern with
  | error fault => rfl
  | ok glob =>
      simp only [Except.mapError, ok_bind]
      cases candidates tree root glob with
      | error fault => rfl
      | ok listed =>
          simp only [addCandidates_eq, ok_bind]
          cases listed.mapM (loadWorkspace tree root) <;> rfl

/-- All patterns are looked up before it matters what was found. -/
theorem addPatterns_eq (found : List Workspace) (listed : List String) :
    addPatterns tree root found listed =
      (listed.mapM (matched tree root)).map fun lists => lists.flatten.foldl addWorkspace found := by
  induction listed generalizing found with
  | nil => rfl
  | cons pattern rest ih =>
      rw [addPatterns_cons, List.mapM_cons]
      cases matched tree root pattern with
      | error fault => rfl
      | ok more =>
          rw [ok_bind, ok_bind, ih]
          cases rest.mapM (matched tree root) with
          | error fault => rfl
          | ok lists =>
              show Except.ok (lists.flatten.foldl addWorkspace (more.foldl addWorkspace found)) =
                Except.ok ((more :: lists).flatten.foldl addWorkspace found)
              rw [List.flatten_cons, List.foldl_append]

/-! ## Lists without a place twice -/

/-- Workspaces with one place are the same. -/
def Agree (found : List Workspace) : Prop := ∀ v ∈ found, ∀ w ∈ found, v.place = w.place → v = w

theorem mem_addWorkspace {found : List Workspace} :
    v ∈ addWorkspace found w ↔ v ∈ found ∨ v = w ∧ ∀ u ∈ found, u.place ≠ w.place := by
  unfold addWorkspace
  split
  · next taken =>
      obtain ⟨u, listed, same⟩ := List.any_eq_true.mp taken
      refine ⟨.inl, fun member => member.resolve_right fun new => ?_⟩
      exact new.2 u listed (beq_iff_eq.mp same)
  · next free =>
      have new : ∀ u ∈ found, u.place ≠ w.place := by simpa using free
      rw [List.mem_append, List.mem_singleton, and_iff_left new]

/-- Where workspaces with one place are the same, adding them loses none. -/
theorem mem_foldl_addWorkspace {found more : List Workspace} (agree : Agree (found ++ more)) :
    v ∈ more.foldl addWorkspace found ↔ v ∈ found ∨ v ∈ more := by
  induction more generalizing found with
  | nil => simp
  | cons w more ih =>
      have added : ∀ u, u ∈ addWorkspace found w ↔ u ∈ found ∨ u = w := by
        intro u
        rw [mem_addWorkspace]
        refine ⟨Or.imp_right And.left, ?_⟩
        rintro (listed | rfl)
        · exact .inl listed
        · by_cases taken : ∃ t ∈ found, t.place = u.place
          · obtain ⟨t, listed, same⟩ := taken
            obtain rfl := agree t (by simp [listed]) u (by simp) same
            exact .inl listed
          · exact .inr ⟨rfl, fun t listed same => taken ⟨t, listed, same⟩⟩
      have agreeAdded : Agree (addWorkspace found w ++ more) := by
        intro a memberA b memberB
        refine agree a ?_ b ?_ <;> simp_all [or_assoc]
      rw [List.foldl_cons, ih agreeAdded, added, List.mem_cons, or_assoc]

/-- Workspaces are added behind those that are there. -/
theorem foldl_addWorkspace_eq_append (more found : List Workspace) :
    ∃ others, more.foldl addWorkspace found = found ++ others := by
  induction more generalizing found with
  | nil => exact ⟨[], (List.append_nil found).symm⟩
  | cons w more ih =>
      obtain ⟨others, rest⟩ := ih (addWorkspace found w)
      rw [List.foldl_cons, rest, addWorkspace]
      split
      · exact ⟨others, rfl⟩
      · exact ⟨w :: others, by simp⟩

end Project

end WorkspacePolicy
