/-
# Proofs.Project.Canonical — the workspaces of a project in their one order

The workspaces of a project are determined by which directories its patterns match. The root comes
first and the others follow in strictly ascending order of their places; a place is listed exactly
if it is the root or a pattern matches a directory there that holds a manifest (`IsCanonical`).
-/
import WorkspacePolicy.Proofs.Project.Matched
import WorkspacePolicy.Proofs.Text.Order

namespace WorkspacePolicy

set_option autoImplicit false

theorem Text.le_refl (a : String) : le a a := by
  rw [le, leChars_eq_dictionary]
  exact dictionary_refl _

namespace Project

variable {tree : FileTree} {root : Path} {names : List String} {v w top : Workspace}

/-! ## The order -/

theorem placeLe_iff : placeLe v w ↔ v.place = "." ∨ w.place ≠ "." ∧ Text.le v.place w.place := by
  simp [placeLe]

theorem placeLe_trans (u v w : Workspace) (first : placeLe u v) (second : placeLe v w) :
    placeLe u w := by
  rw [placeLe_iff] at first second ⊢
  rcases first with first | ⟨notRoot, first⟩
  · exact .inl first
  · obtain ⟨other, second⟩ := second.resolve_left notRoot
    exact .inr ⟨other, Text.linear_le.trans _ _ _ first second⟩

theorem placeLe_total (v w : Workspace) : (placeLe v w || placeLe w v) = true := by
  rw [Bool.or_eq_true, placeLe_iff, placeLe_iff]
  by_cases same : v.place = w.place
  · by_cases atRoot : v.place = "."
    · exact .inl (.inl atRoot)
    · exact .inl (.inr ⟨same ▸ atRoot, same ▸ Text.le_refl _⟩)
  · rcases Text.linear_le.total v.place w.place same with before | after
    · by_cases atRoot : w.place = "."
      · exact .inr (.inl atRoot)
      · exact .inl (.inr ⟨atRoot, before⟩)
    · by_cases atRoot : v.place = "."
      · exact .inl (.inl atRoot)
      · exact .inr (.inr ⟨atRoot, after⟩)

theorem place_eq_of_placeLe (first : placeLe v w) (second : placeLe w v) : v.place = w.place := by
  rw [placeLe_iff] at first second
  by_cases atRoot : v.place = "."
  · rcases second with other | ⟨notRoot, -⟩
    · rw [atRoot, other]
    · exact absurd atRoot notRoot
  · obtain ⟨notRoot, before⟩ := first.resolve_left atRoot
    exact Text.linear_le.antisymm _ _ before (second.resolve_left notRoot).2

theorem pairwise_mergeSort_placeLe (found : List Workspace) :
    (found.mergeSort placeLe).Pairwise fun v w => placeLe v w :=
  List.pairwise_mergeSort placeLe_trans placeLe_total found

/-- Sorting forgets the order in which workspaces were found. -/
theorem mergeSort_placeLe_eq_of_perm {found others : List Workspace} (agree : Agree found)
    (perm : found.Perm others) : found.mergeSort placeLe = others.mergeSort placeLe := by
  refine List.Perm.eq_of_pairwise ?_ (pairwise_mergeSort_placeLe found)
    (pairwise_mergeSort_placeLe others)
    ((List.mergeSort_perm found _).trans (perm.trans (List.mergeSort_perm others _).symm))
  intro v w member member' first second
  rw [List.mem_mergeSort] at member member'
  exact agree v member w (perm.mem_iff.mpr member') (place_eq_of_placeLe first second)

/-- The root comes first. -/
theorem mergeSort_cons_root {others : List Workspace} (atRoot : top.place = ".")
    (agree : Agree (top :: others)) :
    (top :: others).mergeSort placeLe = top :: others.mergeSort placeLe := by
  have perm : (top :: others).Perm (top :: others.mergeSort placeLe) :=
    (List.mergeSort_perm others placeLe).symm.cons top
  have inOrder : (top :: others.mergeSort placeLe).Pairwise fun v w => placeLe v w :=
    List.pairwise_cons.mpr
      ⟨fun w _ => placeLe_iff.mpr (.inl atRoot), pairwise_mergeSort_placeLe others⟩
  rw [mergeSort_placeLe_eq_of_perm agree perm]
  exact List.mergeSort_of_pairwise inOrder

/-! ## Loading -/

/-- A project is loaded: its root, its patterns with what each of them matches, its settings. -/
structure Loads (tree : FileTree) (root : Path) (top : Workspace) (listed : List String)
    (lists : List (List Workspace)) (configuration : Configuration) : Prop where
  there : tree.exists (root ++ [manifestName])
  atRoot : loadWorkspace tree root [] = .ok top
  given : patterns top.manifest.fields = .ok listed
  found : listed.mapM (matched tree root) = .ok lists
  settings : Configuration.load tree root = .ok configuration

variable {listed : List String} {lists : List (List Workspace)} {configuration : Configuration}

theorem loads_of_load {project : Project} (loaded : load tree root = .ok project) :
    ∃ top listed lists configuration, Loads tree root top listed lists configuration ∧
      project = ⟨root, configuration, (lists.flatten.foldl addWorkspace [top]).mergeSort placeLe⟩ := by
  unfold load at loaded
  cases there : tree.exists (root ++ [manifestName]) with
  | false =>
      simp only [there] at loaded
      cases loaded
  | true =>
      simp only [there] at loaded
      obtain ⟨top, topLoaded, loaded⟩ := of_bind_eq_ok loaded
      obtain ⟨listed, patterns, loaded⟩ := of_bind_eq_ok loaded
      obtain ⟨found, added, loaded⟩ := of_bind_eq_ok loaded
      rw [addPatterns_eq] at added
      cases each : listed.mapM (matched tree root) with
      | error fault =>
          rw [each] at added
          cases added
      | ok lists =>
      cases settings : Configuration.load tree root with
      | error fault =>
          simp only [settings] at loaded
          cases loaded
      | ok configuration =>
          rw [each] at added
          simp only [settings] at loaded
          obtain rfl := Except.ok.inj added
          exact ⟨top, listed, lists, configuration, ⟨there, topLoaded, patterns, each, settings⟩,
            (Except.ok.inj loaded).symm⟩

theorem load_of_loads (loads : Loads tree root top listed lists configuration) :
    load tree root =
      .ok ⟨root, configuration, (lists.flatten.foldl addWorkspace [top]).mergeSort placeLe⟩ := by
  have added : addPatterns tree root [top] listed =
      .ok (lists.flatten.foldl addWorkspace [top]) := by
    rw [addPatterns_eq, loads.found]
    rfl
  unfold load
  simp only [loads.there, loads.atRoot, ok_bind]
  show (patterns top.manifest.fields >>= _) = _
  simp only [loads.given, ok_bind, added, loads.settings]
  rfl

/-- The workspace at the root keeps the members of its manifest. -/
theorem root_of_loadWorkspace (loaded : loadWorkspace tree root [] = .ok top) :
    readManifestFields tree root (Path.text root) = .ok top.manifest.fields ∧ top.place = "." := by
  obtain ⟨fields, manifest, below, read, made, under, rfl⟩ := loadWorkspace_eq_ok loaded
  obtain rfl : below = [] := by simpa using under
  rw [List.append_nil] at read
  refine ⟨?_, rfl⟩
  show _ = Except.ok manifest.fields
  rw [Manifest.fields_of_ofFields made]
  exact read

theorem mem_flatten_iff (found : listed.mapM (matched tree root) = .ok lists) :
    w ∈ lists.flatten ↔ ∃ pattern ∈ listed, ∃ names,
      FoundBy tree root pattern names ∧ loadWorkspace tree root names = .ok w := by
  rw [mem_flatten_of_mapM found]
  constructor
  · rintro ⟨pattern, member, more, given, listed⟩
    exact ⟨pattern, member, (mem_matched given w).mp listed⟩
  · rintro ⟨pattern, member, foundBy⟩
    obtain ⟨more, given⟩ := passes_of_mapM found pattern member
    exact ⟨pattern, member, more, given, (mem_matched given w).mpr foundBy⟩

/-- What was loaded agrees on places. -/
theorem agree_of_loads (proper : tree.hasProperNames)
    (loads : Loads tree root top listed lists configuration) : Agree (top :: lists.flatten) := by
  have source : ∀ w ∈ top :: lists.flatten, ∃ names, tree.exists (names.foldl Path.step root) ∧
      loadWorkspace tree root names = .ok w := by
    intro w member
    rcases List.mem_cons.mp member with rfl | member
    · exact ⟨[], FileTree.exists_of_append loads.there, loads.atRoot⟩
    · obtain ⟨pattern, -, names, foundBy, loaded⟩ := (mem_flatten_iff loads.found).mp member
      exact ⟨names, FileTree.exists_of_append foundBy.hasManifest, loaded⟩
  intro v member w member' same
  obtain ⟨names, there, loaded⟩ := source v member
  obtain ⟨others, there', loaded'⟩ := source w member'
  exact eq_of_loadWorkspace proper there there' loaded loaded' same

/-- The workspaces of a project, root first, are the root and those that the patterns match. -/
theorem found_of_loads (proper : tree.hasProperNames)
    (loads : Loads tree root top listed lists configuration) :
    ∃ others, lists.flatten.foldl addWorkspace [top] = top :: others ∧
      Workspaces (top :: others) ∧ ∀ w, w ∈ top :: others ↔ w = top ∨ w ∈ lists.flatten := by
  obtain ⟨others, parts⟩ := foldl_addWorkspace_eq_append lists.flatten [top]
  have added : addPatterns tree root [top] listed = .ok (top :: others) := by
    rw [addPatterns_eq, loads.found]
    exact congrArg Except.ok parts
  have first := wellFormed_of_loadWorkspace proper (FileTree.exists_of_append loads.there) loads.atRoot
  have agree := agree_of_loads proper loads
  refine ⟨others, parts, workspaces_addPatterns proper (.singleton first) added, fun w => ?_⟩
  rw [← List.singleton_append, ← parts, mem_foldl_addWorkspace (by simpa using agree),
    List.mem_singleton]

/-- The workspaces beside the root are those that the patterns match elsewhere. -/
theorem mem_others {others found : List Workspace} (atRoot : top.place = ".")
    (workspaces : Workspaces (top :: others))
    (members : ∀ w, w ∈ top :: others ↔ w = top ∨ w ∈ found) :
    w ∈ others ↔ w ∈ found ∧ w.place ≠ "." := by
  constructor
  · intro member
    have elsewhere : w.place ≠ "." := fun same =>
      (List.nodup_cons.mp workspaces.places).1
        (List.mem_map.mpr ⟨w, member, same.trans atRoot.symm⟩)
    rcases (members w).mp (List.mem_cons_of_mem _ member) with rfl | listed
    · exact absurd atRoot elsewhere
    · exact ⟨listed, elsewhere⟩
  · rintro ⟨member, elsewhere⟩
    rcases List.mem_cons.mp ((members w).mpr (.inr member)) with rfl | listed
    · exact absurd atRoot elsewhere
    · exact listed

/-- The project that is loaded: the root, and in their order the workspaces that the patterns match
elsewhere. -/
theorem sorted_of_loads (proper : tree.hasProperNames)
    (loads : Loads tree root top listed lists configuration) :
    ∃ rest, load tree root = .ok ⟨root, configuration, top :: rest⟩ ∧ Workspaces (top :: rest) ∧
      (rest.Pairwise fun v w => placeLe v w) ∧
      ∀ w, w ∈ rest ↔ w ∈ lists.flatten ∧ w.place ≠ "." := by
  obtain ⟨others, parts, workspaces, members⟩ := found_of_loads proper loads
  have atRoot := (root_of_loadWorkspace loads.atRoot).2
  have agree : Agree (top :: others) := fun v member w member' => workspaces.eq_of_place member member'
  refine ⟨others.mergeSort placeLe, ?_, ?_, pairwise_mergeSort_placeLe others, fun w => ?_⟩
  · rw [load_of_loads loads, parts, mergeSort_cons_root atRoot agree]
  · exact workspaces.perm ((List.mergeSort_perm others placeLe).cons top)
  · rw [List.mem_mergeSort, mem_others atRoot workspaces members]

/-! ## The canonical list -/

/-- A pattern matches a directory at the place, in which there is a manifest. -/
def IsMatched (tree : FileTree) (root : Path) (listed : List String) (place : String) : Prop :=
  ∃ pattern ∈ listed, ∃ names below, FoundBy tree root pattern names ∧
    names.foldl Path.step root = root ++ below ∧ place = Path.relativeText below

/-- The workspaces of a project in their one order: the root and then, in strictly ascending order,
the places that the patterns match. Each is found under its place, and nothing elsewhere. -/
structure IsCanonical (tree : FileTree) (root : Path) (listed : List String) (project : Project) :
    Prop where
  order : ∃ top rest, project.workspaces = top :: rest ∧ top.place = "." ∧
    (∀ w ∈ rest, w.place ≠ ".") ∧
    rest.Pairwise fun v w => Text.le v.place w.place ∧ v.place ≠ w.place
  listed : ∀ place, (∃ w ∈ project.workspaces, w.place = place) ↔
    place = "." ∨ IsMatched tree root listed place
  found : ∀ w ∈ project.workspaces, project.workspaceAt? w.place = some w
  unknown : ∀ place, (∀ w ∈ project.workspaces, w.place ≠ place) →
    project.workspaceAt? place = none

/-- The workspaces of a pattern are at the places that it matches. -/
theorem isMatched_iff (found : listed.mapM (matched tree root) = .ok lists) (place : String) :
    IsMatched tree root listed place ↔ ∃ w ∈ lists.flatten, w.place = place := by
  constructor
  · rintro ⟨pattern, isListed, names, below, foundBy, under, rfl⟩
    obtain ⟨more, given⟩ := passes_of_mapM found pattern isListed
    obtain ⟨w, loaded⟩ := loads_of_matched given foundBy
    refine ⟨w, (mem_flatten_iff found).mpr ⟨pattern, isListed, names, foundBy, loaded⟩, ?_⟩
    obtain ⟨_, _, below', -, -, under', rfl⟩ := loadWorkspace_eq_ok loaded
    obtain rfl := List.append_cancel_left (under.symm.trans under')
    rfl
  · rintro ⟨w, member, rfl⟩
    obtain ⟨pattern, isListed, names, foundBy, loaded⟩ := (mem_flatten_iff found).mp member
    obtain ⟨_, _, below, -, -, under, rfl⟩ := loadWorkspace_eq_ok loaded
    exact ⟨pattern, isListed, names, below, foundBy, under, rfl⟩

/-- **The workspaces of a project that was loaded are in their one order.** -/
theorem isCanonical_of_loads {rest : List Workspace}
    (loads : Loads tree root top listed lists configuration) (workspaces : Workspaces (top :: rest))
    (sorted : rest.Pairwise fun v w => placeLe v w)
    (members : ∀ w, w ∈ rest ↔ w ∈ lists.flatten ∧ w.place ≠ ".") :
    IsCanonical tree root listed ⟨root, configuration, top :: rest⟩ := by
  have atRoot := (root_of_loadWorkspace loads.atRoot).2
  have distinct := (List.nodup_cons.mp workspaces.places).2
  refine ⟨⟨top, rest, rfl, atRoot, fun w member => ((members w).mp member).2, ?_⟩, fun place => ?_,
    fun w member => workspaceAt?_place workspaces member, fun place unlisted => ?_⟩
  · refine (sorted.and (List.pairwise_map.mp distinct)).imp_of_mem ?_
    intro v w member _ before
    exact ⟨((placeLe_iff.mp before.1).resolve_left ((members v).mp member).2).2, before.2⟩
  · rw [isMatched_iff loads.found]
    constructor
    · rintro ⟨w, member, rfl⟩
      rcases List.mem_cons.mp member with rfl | member
      · exact .inl atRoot
      · exact .inr ⟨w, ((members w).mp member).1, rfl⟩
    · rintro (rfl | ⟨w, member, rfl⟩)
      · exact ⟨top, List.mem_cons_self, atRoot⟩
      · by_cases same : w.place = "."
        · exact ⟨top, List.mem_cons_self, atRoot.trans same.symm⟩
        · exact ⟨w, List.mem_cons_of_mem _ ((members w).mpr ⟨member, same⟩), rfl⟩
  · cases found : workspaceAt? ⟨root, configuration, top :: rest⟩ place with
    | none => rfl
    | some w =>
        obtain ⟨member, same⟩ := workspaceAt?_eq_some found
        exact absurd same (unlisted w member)

end Project

end WorkspacePolicy
