/-
# Proofs.Project.Named — a path names a workspace up to its spelling

In a project that was loaded a text names a workspace if and only if its normal form from the
root is the place of that workspace and the file system can take the text (`Path.isName`): it
holds no U+0000, and every lone surrogate in it is one of U+DC80 to U+DCFF, which stand for
single bytes. Every other text is refused as unknown, be it that it leads out of the project, to
a place without workspace, or nowhere. So the spelling does not count, and the path that a
workspace is known by names it (`findsByPath_of_load`).

The normal form alone does not decide: a name that cannot be encoded is refused even where the
next part takes it back (`not_findsEveryText_twins`).
-/
import WorkspacePolicy.Proofs.Files.Spelling
import WorkspacePolicy.Proofs.Policy.Conclusion
import WorkspacePolicy.Proofs.Project.Canonical

namespace WorkspacePolicy.Project

set_option autoImplicit false

open WorkspacePolicy.Path

variable {project : Project}

/-! ## The place of a workspace -/

theorem isProper_root_of_load {tree : FileTree} {root : Path} (proper : tree.hasProperNames)
    (loaded : load tree root = .ok project) : ∀ n ∈ project.root, isProper n := by
  obtain ⟨top, listed, lists, configuration, loads, rfl⟩ := loads_of_load loaded
  obtain ⟨subtree, there⟩ := Option.isSome_iff_exists.mp (FileTree.exists_of_append loads.there)
  exact FileTree.isProper_of_find? proper there

/-- The place of a workspace is the text of its components. -/
theorem relativeText_components (workspaces : Workspaces project.workspaces) {w : Workspace}
    (member : w ∈ project.workspaces) : relativeText (components w.place) = w.place := by
  obtain ⟨names, proper, place⟩ := (workspaces.wellFormed w member).place
  rw [place, components_relativeText proper]

/-- **A text names a workspace just when its normal form is the place of the workspace.** -/
theorem workspaceNamed?_eq_some_iff (workspaces : Workspaces project.workspaces)
    (root : ∀ n ∈ project.root, isProper n) {path : String} {w : Workspace} :
    project.workspaceNamed? path = some w ↔ isName path ∧ w ∈ project.workspaces ∧
      IsNormalForm project.root path (project.root ++ components w.place) := by
  have down : ∀ n ∈ project.root, LeadsDown n :=
    fun n member => leadsDown_of_isProper (root n member)
  rw [isNormalForm_iff down, workspaceNamed?]
  by_cases taken : isName path
  case neg => simp [taken]
  simp only [taken, Bool.not_true, Bool.false_eq_true, if_false, true_and]
  constructor
  · intro named
    split at named
    · next names below =>
        obtain ⟨member, place⟩ := workspaceAt?_eq_some named
        have resolved := eq_append_of_below? below
        have proper : ∀ n ∈ names, isProper n := fun n inNames =>
          isProper_of_mem_resolve root taken n (resolved ▸ List.mem_append_right _ inNames)
        refine ⟨member, ?_⟩
        rw [place, components_relativeText proper]
        exact resolved
    · cases named
  · rintro ⟨member, resolved⟩
    rw [resolved, below?_append]
    dsimp only
    rw [relativeText_components workspaces member]
    exact workspaceAt?_place workspaces member

/-! ## All texts -/

/-- How texts of rules name the workspaces of a project. -/
structure FindsByPath (project : Project) : Prop where
  /-- Every text has exactly one normal form from the root. -/
  normal : ∀ path, ∃ place, IsNormalForm project.root path place ∧
    ∀ other, IsNormalForm project.root path other → other = place
  /-- A text names a workspace just when that form is the root and the components of the place. -/
  found : ∀ path w, project.workspaceOfRule path = .ok w ↔ isName path ∧ w ∈ project.workspaces ∧
    IsNormalForm project.root path (project.root ++ components w.place)
  /-- Every other text is an invalid rule. -/
  refused : ∀ path, (∀ w ∈ project.workspaces, isName path →
      ¬ IsNormalForm project.root path (project.root ++ components w.place)) →
    project.workspaceOfRule path = .error (.invalidRule s!"unknown workspace {Text.quoted path}")
  /-- Two spellings of one place name the same workspace, or none. -/
  alike : ∀ path other place, isName path → isName other → IsNormalForm project.root path place →
    IsNormalForm project.root other place →
      ∀ w, project.workspaceOfRule path = .ok w ↔ project.workspaceOfRule other = .ok w
  /-- The path that a workspace is known by names it. -/
  own : ∀ w ∈ project.workspaces, project.workspaceOfRule w.place = .ok w

/-- **The workspaces of a project that was loaded are found up to the spelling of their paths.** -/
theorem findsByPath_of_load {tree : FileTree} {root : Path} (proper : tree.hasProperNames)
    (loaded : load tree root = .ok project) : project.FindsByPath := by
  have workspaces := workspaces_of_load proper loaded
  have rootProper := isProper_root_of_load proper loaded
  have down : ∀ n ∈ project.root, LeadsDown n :=
    fun n member => leadsDown_of_isProper (rootProper n member)
  have found : ∀ path w, project.workspaceOfRule path = .ok w ↔ isName path ∧
      w ∈ project.workspaces ∧
        IsNormalForm project.root path (project.root ++ components w.place) := by
    intro path w
    rw [workspaceOfRule_eq_ok_iff]
    exact workspaceNamed?_eq_some_iff workspaces rootProper
  constructor
  case normal => exact existsUnique_isNormalForm down
  case found => exact found
  case refused =>
    intro path unknown
    rw [workspaceOfRule]
    cases named : project.workspaceNamed? path with
    | none => rfl
    | some w =>
        obtain ⟨taken, member, normal⟩ :=
          (workspaceNamed?_eq_some_iff workspaces rootProper).mp named
        exact absurd normal (unknown w member taken)
  case alike =>
    intro path other place taken taken' normal normal' w
    rw [isNormalForm_iff down] at normal normal'
    rw [found, found, isNormalForm_iff down, isNormalForm_iff down, normal, normal']
    simp only [taken, taken']
  case own =>
    intro w member
    exact workspaceOfRule_eq_ok_iff.mpr (workspaceNamed?_place workspaces member)

theorem leadsDown_root_twins : ∀ n ∈ twins.root, LeadsDown n :=
  List.forall_mem_singleton.mpr (leadsDown_of_isProper (by decide))

/-- The way up, past the root and down again, with an empty part and a dot. -/
theorem findsByPath_twins : twinsTree.hasProperNames ∧ load twinsTree ["project"] = .ok twins ∧
    twins.FindsByPath ∧ twins.workspaceOfRule "../../.././project//b/../a/." =
      .ok (twin "a" "x" [⟨⟨none, "y"⟩, none⟩, ⟨⟨none, "z"⟩, some "null"⟩] firstFields) := by
  have finds := findsByPath_of_load twinsTree_hasProperNames load_twins
  have normal : IsNormalForm twins.root "../../.././project//b/../a/." (["project"] ++ ["a"]) :=
    (isNormalForm_iff leadsDown_root_twins).mpr (by decide)
  have member : twin "a" "x" [⟨⟨none, "y"⟩, none⟩, ⟨⟨none, "z"⟩, some "null"⟩] firstFields ∈
      twins.workspaces := by
    simp [twins]
  exact ⟨twinsTree_hasProperNames, load_twins, finds,
    (finds.found _ _).mpr ⟨by decide, member, normal⟩⟩

/-- Every text without U+0000 is found by its normal form, be it one that can be encoded or not. -/
def FindsEveryText (project : Project) : Prop :=
  ∀ path : String, '\x00' ∉ path.toList → ∀ w, project.workspaceOfRule path = .ok w ↔
    w ∈ project.workspaces ∧ IsNormalForm project.root path (project.root ++ components w.place)

/-- Down to a name that is half a pair, which stands for no byte, and up again. -/
def halfPair : String := String.ofList [Text.ofCodePoint 0xd800, '/', '.', '.']

/-- The detour spells the root of the project, but the file system cannot take it. -/
theorem not_findsEveryText_twins : twinsTree.hasProperNames ∧
    load twinsTree ["project"] = .ok twins ∧
      twins.workspaceOfRule halfPair =
        .error (.invalidRule s!"unknown workspace {Text.quoted halfPair}") ∧
      ¬ twins.FindsEveryText := by
  have refused : twins.workspaceOfRule halfPair =
      .error (.invalidRule s!"unknown workspace {Text.quoted halfPair}") := by
    rw [workspaceOfRule, workspaceNamed?, if_pos (by decide)]
  refine ⟨twinsTree_hasProperNames, load_twins, refused, fun finds => ?_⟩
  have normal : IsNormalForm twins.root halfPair (twins.root ++ components ".") :=
    (isNormalForm_iff leadsDown_root_twins).mpr (by decide)
  have named := (finds halfPair (by decide) (twin "." "r" [] twinsFields)).mpr
    ⟨List.mem_cons_self, normal⟩
  rw [refused] at named
  cases named

end WorkspacePolicy.Project
