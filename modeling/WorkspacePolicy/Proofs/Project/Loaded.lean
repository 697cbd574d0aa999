/-
# Proofs.Project.Loaded — what holds of every project that was loaded

A project that was loaded from a tree with proper names is *well formed*: no two workspaces
share a place, every place is the text of proper names, and every package name of a dependency
was read from a text (`wellFormed_of_load`). The invariant is that of the list of workspaces
found so far, which grows by workspaces whose directory is there and whose place is new.

In a well-formed project the place of a workspace names that workspace
(`workspaceNamed?_place`). The names of workspaces need not differ: `twins` is a project that
loads although two of its packages have one name.
-/
import Mathlib.Data.List.Permutation
import WorkspacePolicy.Policy.Conclusion
import WorkspacePolicy.Project.Load
import WorkspacePolicy.Proofs.Except
import WorkspacePolicy.Proofs.Files.Place
import WorkspacePolicy.Proofs.Project.Ident
import WorkspacePolicy.Proofs.Project.Manifest

namespace WorkspacePolicy

set_option autoImplicit false

/-! ## Manifests -/

namespace Manifest

/-- All package names of dependencies were read from texts. -/
def HasIdents (manifest : Manifest) : Prop :=
  ∀ kind, ∀ d ∈ manifest.dependencies kind, d.ident.IsParsed

theorem isParsed_of_entries {entries : List (String × Json)} {found : List Dependency}
    (rows : List.Forall₂ IsEntry entries found) : ∀ d ∈ found, d.ident.IsParsed := by
  induction rows with
  | nil => exact fun d member => absurd member List.not_mem_nil
  | cons first _ ih => exact List.forall_mem_cons.mpr ⟨⟨_, first.ident⟩, ih⟩

theorem hasIdents_of_ofFields {fields : List (String × Json)} {manifest : Manifest}
    (made : ofFields fields = .ok manifest) : manifest.HasIdents :=
  fun kind => isParsed_of_entries (entries_of_ofFields made kind)

end Manifest

/-! ## Lists of workspaces -/

/-- The place of the workspace is the text of proper names, and its dependencies have names. -/
structure Workspace.WellFormed (workspace : Workspace) : Prop where
  place : ∃ names, (∀ n ∈ names, Path.isProper n) ∧ workspace.place = Path.relativeText names
  idents : workspace.manifest.HasIdents

/-- Workspaces at different places. -/
structure Workspaces (found : List Workspace) : Prop where
  places : (found.map (·.place)).Nodup
  wellFormed : ∀ w ∈ found, w.WellFormed

namespace Workspaces

variable {found : List Workspace}

theorem eq_of_place (workspaces : Workspaces found) {v w : Workspace} (member : v ∈ found)
    (member' : w ∈ found) (same : v.place = w.place) : v = w :=
  List.inj_on_of_nodup_map workspaces.places member member' same

theorem singleton {workspace : Workspace} (wellFormed : workspace.WellFormed) :
    Workspaces [workspace] where
  places := List.nodup_singleton _
  wellFormed _ member := List.mem_singleton.mp member ▸ wellFormed

theorem perm {others : List Workspace} (workspaces : Workspaces found)
    (same : others.Perm found) : Workspaces others where
  places := (same.map _).nodup_iff.mpr workspaces.places
  wellFormed w member := workspaces.wellFormed w (same.mem_iff.mp member)

theorem addWorkspace {workspace : Workspace} (workspaces : Workspaces found)
    (wellFormed : workspace.WellFormed) : Workspaces (Project.addWorkspace found workspace) := by
  unfold Project.addWorkspace
  split
  · exact workspaces
  · next absent =>
      have isNew : ∀ v ∈ found, v.place ≠ workspace.place := by
        simpa using absent
      constructor
      case places =>
        rw [List.map_append, List.nodup_append]
        refine ⟨workspaces.places, List.nodup_singleton _, ?_⟩
        intro place member place' member'
        obtain ⟨v, listed, rfl⟩ := List.mem_map.mp member
        rw [List.mem_singleton.mp member']
        exact isNew v listed
      case wellFormed =>
        intro w member
        rcases List.mem_append.mp member with member | member
        · exact workspaces.wellFormed w member
        · exact List.mem_singleton.mp member ▸ wellFormed

end Workspaces

/-! ## Loading -/

namespace Project

variable {tree : FileTree} {root : Path}

theorem wellFormed_of_loadWorkspace {names : List String} {workspace : Workspace}
    (proper : tree.hasProperNames) (there : tree.exists (names.foldl Path.step root))
    (loaded : loadWorkspace tree root names = .ok workspace) : workspace.WellFormed := by
  unfold loadWorkspace at loaded
  obtain ⟨fields, -, loaded⟩ := of_bind_eq_ok loaded
  cases read : Manifest.ofFields fields with
  | error fault =>
      simp only [read] at loaded
      cases loaded
  | ok manifest =>
  cases below : Path.below? root (names.foldl Path.step root) with
  | none =>
      simp only [read, below] at loaded
      cases loaded
  | some found =>
      simp only [read, below] at loaded
      obtain rfl := Except.ok.inj loaded
      -- The directory is there, so it was reached through proper names.
      obtain ⟨subtree, isThere⟩ := Option.isSome_iff_exists.mp there
      rw [Path.eq_append_of_below? below] at isThere
      have foundProper : ∀ n ∈ found, Path.isProper n := fun n member =>
        FileTree.isProper_of_find? proper isThere n (List.mem_append_right root member)
      exact ⟨⟨found, foundProper, rfl⟩, Manifest.hasIdents_of_ofFields read⟩

theorem exists_of_candidates {glob : Glob} {found : List (List String)}
    (given : candidates tree root glob = .ok found) :
    ∀ names ∈ found, tree.exists (names.foldl Path.step root) := by
  unfold candidates at given
  obtain ⟨selected, -, given⟩ := of_bind_eq_ok given
  obtain rfl := Except.ok.inj given
  intro names member
  have isDirectory : tree.isDirectoryAt (names.foldl Path.step root) := by
    have := (List.mem_filter.mp member).2
    simp only [Bool.and_eq_true] at this
    exact this.1
  unfold FileTree.isDirectoryAt at isDirectory
  unfold FileTree.exists
  cases there : tree.find? (names.foldl Path.step root) with
  | none => simp [there] at isDirectory
  | some subtree => rfl

theorem workspaces_addCandidates (proper : tree.hasProperNames) :
    ∀ {listed : List (List String)} {found result : List Workspace},
      (∀ names ∈ listed, tree.exists (names.foldl Path.step root)) → Workspaces found →
      addCandidates tree root found listed = .ok result → Workspaces result
  | [], found, result, _, workspaces, added => by
      obtain rfl := Except.ok.inj added
      exact workspaces
  | names :: rest, found, result, there, workspaces, added => by
      obtain ⟨first, others⟩ := List.forall_mem_cons.mp there
      unfold addCandidates at added
      obtain ⟨workspace, loaded, added⟩ := of_bind_eq_ok added
      have wellFormed := wellFormed_of_loadWorkspace proper first loaded
      exact workspaces_addCandidates proper others (workspaces.addWorkspace wellFormed) added

theorem workspaces_addPatterns (proper : tree.hasProperNames) :
    ∀ {patterns : List String} {found result : List Workspace}, Workspaces found →
      addPatterns tree root found patterns = .ok result → Workspaces result
  | [], found, result, workspaces, added => by
      obtain rfl := Except.ok.inj added
      exact workspaces
  | pattern :: rest, found, result, workspaces, added => by
      unfold addPatterns at added
      split at added
      · cases added
      · split at added
        · cases added
        · next given =>
            obtain ⟨more, addedNow, added⟩ := of_bind_eq_ok added
            exact workspaces_addPatterns proper
              (workspaces_addCandidates proper (exists_of_candidates given) workspaces addedNow)
              added

/-- **The workspaces of a project that was loaded are well formed.** -/
theorem workspaces_of_load {project : Project} (proper : tree.hasProperNames)
    (loaded : load tree root = .ok project) : Workspaces project.workspaces := by
  unfold load at loaded
  cases there : tree.exists (root ++ [manifestName]) with
  | false =>
      simp only [there] at loaded
      cases loaded
  | true =>
      simp only [there] at loaded
      obtain ⟨top, topLoaded, loaded⟩ := of_bind_eq_ok loaded
      obtain ⟨patterns, -, loaded⟩ := of_bind_eq_ok loaded
      obtain ⟨found, added, loaded⟩ := of_bind_eq_ok loaded
      have first := wellFormed_of_loadWorkspace proper (FileTree.exists_of_append there) topLoaded
      have all := workspaces_addPatterns proper (.singleton first) added
      cases settings : Configuration.load tree root with
      | error fault =>
          simp only [settings] at loaded
          cases loaded
      | ok configuration =>
          simp only [settings] at loaded
          obtain rfl := Except.ok.inj loaded
          exact all.perm (List.mergeSort_perm found placeLe)

/-! ## Workspaces by name -/

theorem workspaceAt?_eq_some {project : Project} {place : String} {w : Workspace}
    (found : project.workspaceAt? place = some w) : w ∈ project.workspaces ∧ w.place = place := by
  rw [workspaceAt?, List.findRev?_eq_find?_reverse] at found
  exact ⟨List.mem_reverse.mp (List.mem_of_find?_eq_some found),
    by simpa using List.find?_some found⟩

theorem workspaceAt?_place {project : Project} (workspaces : Workspaces project.workspaces)
    {w : Workspace} (member : w ∈ project.workspaces) :
    project.workspaceAt? w.place = some w := by
  cases found : project.workspaceAt? w.place with
  | none =>
      rw [workspaceAt?, List.findRev?_eq_find?_reverse, List.find?_eq_none] at found
      exact absurd (found w (List.mem_reverse.mpr member)) (by simp)
  | some v =>
      obtain ⟨member', same⟩ := workspaceAt?_eq_some found
      rw [workspaces.eq_of_place member' member same]

/-- The place of a workspace names it. -/
theorem workspaceNamed?_place {project : Project} (workspaces : Workspaces project.workspaces)
    {w : Workspace} (member : w ∈ project.workspaces) :
    project.workspaceNamed? w.place = some w := by
  obtain ⟨names, proper, place⟩ := (workspaces.wellFormed w member).place
  have taken : Path.isName w.place = true := by
    rw [place]
    exact Path.isName_relativeText proper
  have below : Path.below? project.root (Path.resolve project.root w.place) = some names := by
    rw [place, Path.resolve_relativeText _ proper, Path.below?_append]
  simp only [workspaceNamed?, taken, below, ← place]
  exact workspaceAt?_place workspaces member

theorem mem_of_workspaceNamed? {project : Project} {path : String} {w : Workspace}
    (named : project.workspaceNamed? path = some w) : w ∈ project.workspaces := by
  unfold workspaceNamed? at named
  split at named
  · cases named
  · split at named
    · exact (workspaceAt?_eq_some named).1
    · cases named

/-! ## A project with two packages of one name -/

/-- The files of the project. -/
def twinsTree : FileTree :=
  .directory [("project", .directory
    [("a", .directory [("package.json",
        .file "\x7b\"name\":\"x\",\"dependencies\":\x7b\"y\":null,\"z\":\"null\"\x7d\x7d".toUTF8)]),
      ("b", .directory [("package.json", .file "\x7b\"name\":\"x\"\x7d".toUTF8)]),
      ("package.json", .file "\x7b\"name\":\"r\",\"workspaces\":[\"*\"]\x7d".toUTF8)])]

/-- A workspace of the project, with its dependencies and the members of its manifest. -/
def twin (place name : String) (dependencies : List Dependency) (fields : List (String × Json)) :
    Workspace where
  place
  manifest :=
    { name := some ⟨none, name⟩
      version := none
      dependencies := fun
        | .regular => dependencies
        | .development => []
        | .peer => []
      fields }
  ident := ⟨none, name⟩

/-- The manifest at the root. -/
def twinsFields : List (String × Json) :=
  [("name", .string "r"), ("workspaces", .array [.string "*"])]

/-- The manifest of the workspace with dependencies. -/
def firstFields : List (String × Json) :=
  [("name", .string "x"), ("dependencies", .object [("y", .null), ("z", .string "null")])]

/-- The manifest of the workspace without. -/
def secondFields : List (String × Json) := [("name", .string "x")]

/-- The project: two workspaces beside the root are called `x`. -/
def twins : Project where
  root := ["project"]
  configuration := ⟨["project", "constraints.pro"], "swi"⟩
  workspaces :=
    [twin "." "r" [] twinsFields,
      twin "a" "x" [⟨⟨none, "y"⟩, none⟩, ⟨⟨none, "z"⟩, some "null"⟩] firstFields,
      twin "b" "x" [] secondFields]

theorem twinsTree_hasProperNames : twinsTree.hasProperNames := by decide

theorem readManifestFields_of_text {tree : FileTree} {place : Path} {name text : String}
    {fields : List (String × Json)}
    (found : tree.find? (place ++ [manifestName]) = some (.file text.toUTF8))
    (reads : Json.read false (String.ofList (Text.unifyLineEnds text.toList)) =
      .ok (.object fields)) : readManifestFields tree place name = .ok fields := by
  have decoded : String.fromUTF8? text.toUTF8 = some text := dif_pos text.isValidUTF8
  simp only [readManifestFields, FileTree.readText, found, decoded, reads]

theorem loadWorkspace_of_read {tree : FileTree} {root : Path} {names below : List String}
    {fields : List (String × Json)} {workspace : Workspace}
    (read : readManifestFields tree (names.foldl Path.step root) (Path.text (root ++ names)) =
      .ok fields)
    (made : Manifest.ofFields fields = .ok workspace.manifest)
    (under : Path.below? root (names.foldl Path.step root) = some below)
    (same : workspace = .ofManifest (Path.relativeText below) workspace.manifest) :
    loadWorkspace tree root names = .ok workspace := by
  unfold loadWorkspace
  simp only [read, ok_bind, made, under]
  rw [same]
  rfl

theorem loadWorkspace_twins_root :
    loadWorkspace twinsTree ["project"] [] = .ok (twin "." "r" [] twinsFields) :=
  loadWorkspace_of_read (readManifestFields_of_text rfl (by cbv)) rfl rfl rfl

theorem loadWorkspace_twins_first : loadWorkspace twinsTree ["project"] ["a"] =
    .ok (twin "a" "x" [⟨⟨none, "y"⟩, none⟩, ⟨⟨none, "z"⟩, some "null"⟩] firstFields) :=
  loadWorkspace_of_read (readManifestFields_of_text rfl (by cbv)) rfl rfl rfl

theorem loadWorkspace_twins_second :
    loadWorkspace twinsTree ["project"] ["b"] = .ok (twin "b" "x" [] secondFields) :=
  loadWorkspace_of_read (readManifestFields_of_text rfl (by cbv)) rfl rfl rfl

theorem parse_star : Glob.parse "*" = .ok ⟨[.pattern "*"], false⟩ := by cbv

theorem selectFrom_twins :
    Glob.selectFrom twinsTree ["project"] false [.pattern "*"] [] ["project"] =
      .ok [["a"], ["b"], ["package.json"]] := by
  -- Only names count here, whatever the files hold.
  unfold twinsTree
  generalize String.toUTF8 _ = first
  generalize String.toUTF8 _ = second
  generalize String.toUTF8 _ = top
  cbv

theorem candidates_twins :
    candidates twinsTree ["project"] ⟨[.pattern "*"], false⟩ = .ok [["a"], ["b"]] := by
  have inOrder : [["a"], ["b"], ["package.json"]].mergeSort Text.leNames =
      [["a"], ["b"], ["package.json"]] := List.mergeSort_of_pairwise (by decide)
  simp only [candidates, Glob.select, selectFrom_twins, ok_bind, inOrder]
  rfl

theorem settings_twins : Configuration.load twinsTree ["project"] =
    .ok ⟨["project", "constraints.pro"], "swi"⟩ := by
  rfl

theorem load_twins : load twinsTree ["project"] = .ok twins := by
  have there : twinsTree.exists (["project"] ++ [manifestName]) = true := by rfl
  have listed : patterns twinsFields = .ok ["*"] := by rfl
  have added : addPatterns twinsTree ["project"] [twin "." "r" [] twinsFields] ["*"] =
      .ok twins.workspaces := by
    simp only [addPatterns, parse_star, candidates_twins, addCandidates,
      loadWorkspace_twins_first, loadWorkspace_twins_second, ok_bind]
    rfl
  have inOrder : twins.workspaces.mergeSort placeLe = twins.workspaces :=
    List.mergeSort_of_pairwise (by decide)
  unfold load
  simp only [there, loadWorkspace_twins_root, ok_bind]
  show (patterns twinsFields >>= _) = _
  simp only [listed, ok_bind, added, settings_twins, inOrder]
  rfl

end Project

end WorkspacePolicy
