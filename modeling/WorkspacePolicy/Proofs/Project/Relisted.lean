/-
# Proofs.Project.Relisted — patterns in another order

The order of the patterns of a project does not matter, nor how often one of them is given: when
the manifest at the root is written again and lists the same patterns in another way (`Relisted`),
loading fails as before or finds the same workspaces. Only the list of patterns itself, which the
workspace at the root keeps with the other members of its manifest, tells the two apart
(`LoadsAlike`).

Together with the one order of the workspaces this makes loading canonical (`load_canonical`).
-/
import WorkspacePolicy.Proofs.Files.Overwrite
import WorkspacePolicy.Proofs.Project.Canonical

namespace WorkspacePolicy

set_option autoImplicit false

/-- The workspace with other members of its manifest, from which nothing else is read. -/
def Workspace.withFields (w : Workspace) (fields : List (String × Json)) : Workspace :=
  { w with manifest := { w.manifest with fields := fields } }

namespace Project

variable {tree : FileTree} {root : Path} {names : List String} {w top : Workspace}

/-- The manifest at the root has been written again: it has the same members, but for the patterns,
which it lists in another order or another number of times. -/
structure Relisted (tree : FileTree) (root : Path) (content : ByteArray)
    (fields fields' : List (String × Json)) : Prop where
  before : readManifestFields tree root (Path.text root) = .ok fields
  after : readManifestFields (tree.overwrite content (root ++ [manifestName])) root
    (Path.text root) = .ok fields'
  others : ∀ key, key ≠ "workspaces" → Entries.find? key fields' = Entries.find? key fields
  patterns : ∃ listed listed', patterns fields = .ok listed ∧ patterns fields' = .ok listed' ∧
    ∀ pattern, pattern ∈ listed' ↔ pattern ∈ listed

/-- Two trees have the same project, but for the members that the manifest of the root keeps, or
neither of them has one. -/
def LoadsAlike (tree other : FileTree) (root : Path) (fields : List (String × Json)) : Prop :=
  (∃ fault fault', load tree root = .error fault ∧ load other root = .error fault') ∨
    ∃ configuration top rest, load tree root = .ok ⟨root, configuration, top :: rest⟩ ∧
      load other root = .ok ⟨root, configuration, top.withFields fields :: rest⟩

section

variable {content : ByteArray} {fields fields' : List (String × Json)}

theorem ofFields_of_others
    (others : ∀ key, key ≠ "workspaces" → Entries.find? key fields' = Entries.find? key fields) :
    Manifest.ofFields fields' =
      (Manifest.ofFields fields).map fun manifest => { manifest with fields := fields' } := by
  refine Manifest.ofFields_of_agree fun key member => others key ?_
  rintro rfl
  exact absurd member (by decide)

theorem loadWorkspace_root (read : readManifestFields tree root (Path.text root) = .ok fields) :
    loadWorkspace tree root [] = match Manifest.ofFields fields with
      | .ok manifest => .ok (.ofManifest "." manifest)
      | .error fault => .error (.manifest fault) := by
  have under : Path.below? root root = some [] := by simpa using Path.below?_append root []
  unfold loadWorkspace
  simp only [List.foldl_nil, List.append_nil, read, ok_bind, under]
  cases Manifest.ofFields fields <;> rfl

theorem place_of_loadWorkspace (atRoot : names.foldl Path.step root = root)
    (loaded : loadWorkspace tree root names = .ok w) : w.place = "." := by
  have same : ([] : List String).foldl Path.step root = names.foldl Path.step root := atRoot.symm
  exact (root_of_loadWorkspace (loadWorkspace_of_place same loaded)).2

/-- Only the workspace at the root is read from the manifest there. -/
theorem loadWorkspace_overwrite (apart : names.foldl Path.step root ≠ root) :
    loadWorkspace (tree.overwrite content (root ++ [manifestName])) root names =
      loadWorkspace tree root names := by
  have elsewhere : names.foldl Path.step root ++ [manifestName] ≠ root ++ [manifestName] :=
    fun same => apart (List.append_cancel_right same)
  simp only [loadWorkspace, readManifestFields, FileTree.readText_overwrite elsewhere]

theorem directoriesOf_overwrite (path : Path) (pattern : String) :
    directoriesOf (tree.overwrite content path) root pattern = directoriesOf tree root pattern := by
  simp only [directoriesOf, candidates, Glob.select_overwrite, FileTree.isDirectoryAt_overwrite,
    FileTree.exists_overwrite]

theorem settings_overwrite :
    Configuration.load (tree.overwrite content (root ++ [manifestName])) root =
      Configuration.load tree root := by
  have elsewhere : root ++ [Configuration.fileName] ≠ root ++ [manifestName] := fun same =>
    absurd (List.append_cancel_left same) (by decide)
  simp only [Configuration.load, FileTree.exists_overwrite, FileTree.readText_overwrite elsewhere]

/-- Elsewhere than at the root the same workspaces are there. -/
theorem loadWorkspace_overwrite_iff (elsewhere : w.place ≠ ".") :
    loadWorkspace (tree.overwrite content (root ++ [manifestName])) root names = .ok w ↔
      loadWorkspace tree root names = .ok w := by
  by_cases atRoot : names.foldl Path.step root = root
  · exact ⟨fun loaded => absurd (place_of_loadWorkspace atRoot loaded) elsewhere,
      fun loaded => absurd (place_of_loadWorkspace atRoot loaded) elsewhere⟩
  · rw [loadWorkspace_overwrite atRoot]

theorem mem_matched_overwrite {pattern : String} {found found' : List Workspace}
    (given : matched tree root pattern = .ok found)
    (given' : matched (tree.overwrite content (root ++ [manifestName])) root pattern = .ok found')
    (elsewhere : w.place ≠ ".") : w ∈ found' ↔ w ∈ found := by
  obtain ⟨listed, directories, each⟩ := of_bind_eq_ok given
  obtain ⟨listed', directories', each'⟩ := of_bind_eq_ok given'
  rw [directoriesOf_overwrite] at directories'
  obtain rfl := Except.ok.inj (directories.symm.trans directories')
  simp only [mem_mapM_iff each, mem_mapM_iff each', loadWorkspace_overwrite_iff elsewhere]

/-- Where the root can be loaded, every name that leads there can. -/
theorem passes_of_root (atRoot : names.foldl Path.step root = root)
    (loaded : loadWorkspace tree root [] = .ok top) : Passes (loadWorkspace tree root) names := by
  have same : names.foldl Path.step root = ([] : List String).foldl Path.step root := atRoot
  exact ⟨top, loadWorkspace_of_place same loaded⟩

theorem passes_matched_overwrite {top' : Workspace} (loaded : loadWorkspace tree root [] = .ok top)
    (loaded' : loadWorkspace (tree.overwrite content (root ++ [manifestName])) root [] = .ok top')
    (pattern : String) :
    Passes (matched (tree.overwrite content (root ++ [manifestName])) root) pattern ↔
      Passes (matched tree root) pattern := by
  have each : ∀ names,
      Passes (loadWorkspace (tree.overwrite content (root ++ [manifestName])) root) names ↔
        Passes (loadWorkspace tree root) names := by
    intro names
    by_cases atRoot : names.foldl Path.step root = root
    · exact ⟨fun _ => passes_of_root atRoot loaded, fun _ => passes_of_root atRoot loaded'⟩
    · simp only [Passes, loadWorkspace_overwrite atRoot]
  unfold Passes matched
  rw [directoriesOf_overwrite]
  cases directoriesOf tree root pattern with
  | error fault => rfl
  | ok listed =>
      simp only [ok_bind]
      refine passes_mapM_iff.trans (Iff.trans ?_ passes_mapM_iff.symm)
      simp only [each]

theorem mem_lists_overwrite {listed listed' : List String} {lists lists' : List (List Workspace)}
    (same : ∀ pattern, pattern ∈ listed' ↔ pattern ∈ listed)
    (found : listed.mapM (matched tree root) = .ok lists)
    (found' : listed'.mapM (matched (tree.overwrite content (root ++ [manifestName])) root) =
      .ok lists')
    (elsewhere : w.place ≠ ".") : w ∈ lists'.flatten ↔ w ∈ lists.flatten := by
  rw [mem_flatten_of_mapM found, mem_flatten_of_mapM found']
  constructor
  · rintro ⟨pattern, member, more, given, isFound⟩
    have member := (same pattern).mp member
    obtain ⟨before, given₀⟩ := passes_of_mapM found pattern member
    exact ⟨pattern, member, before, given₀, (mem_matched_overwrite given₀ given elsewhere).mp isFound⟩
  · rintro ⟨pattern, member, before, given₀, isFound⟩
    have member := (same pattern).mpr member
    obtain ⟨more, given⟩ := passes_of_mapM found' pattern member
    exact ⟨pattern, member, more, given, (mem_matched_overwrite given₀ given elsewhere).mpr isFound⟩

end

section

variable {content : ByteArray} {fields fields' : List (String × Json)}

/-- The root is read again, with the other members. -/
theorem loadWorkspace_relisted (relisted : Relisted tree root content fields fields') :
    loadWorkspace (tree.overwrite content (root ++ [manifestName])) root [] =
      (loadWorkspace tree root []).map (·.withFields fields') := by
  rw [loadWorkspace_root relisted.before, loadWorkspace_root relisted.after,
    ofFields_of_others relisted.others]
  cases Manifest.ofFields fields <;> rfl

/-- What is loaded is loaded again, beside the root with the same workspaces. -/
theorem loads_relisted (relisted : Relisted tree root content fields fields')
    {listed : List String} {lists : List (List Workspace)} {configuration : Configuration}
    (loads : Loads tree root top listed lists configuration) :
    ∃ listed' lists', Loads (tree.overwrite content (root ++ [manifestName])) root
        (top.withFields fields') listed' lists' configuration ∧
      ∀ w : Workspace, w.place ≠ "." → (w ∈ lists'.flatten ↔ w ∈ lists.flatten) := by
  obtain ⟨before, listed', given, given', same⟩ := relisted.patterns
  obtain rfl : top.manifest.fields = fields :=
    Except.ok.inj ((root_of_loadWorkspace loads.atRoot).1.symm.trans relisted.before)
  obtain rfl := Except.ok.inj (loads.given.symm.trans given)
  have atRoot : loadWorkspace (tree.overwrite content (root ++ [manifestName])) root [] =
      .ok (top.withFields fields') := by
    rw [loadWorkspace_relisted relisted, loads.atRoot]
    rfl
  obtain ⟨lists', found⟩ := exists_mapM_of_passes fun pattern member =>
    (passes_matched_overwrite loads.atRoot atRoot pattern).mpr
      (passes_of_mapM loads.found pattern ((same pattern).mp member))
  refine ⟨listed', lists', ⟨?_, atRoot, given', found, ?_⟩, fun w elsewhere =>
    mem_lists_overwrite same loads.found found elsewhere⟩
  · rw [FileTree.exists_overwrite]
    exact loads.there
  · rw [settings_overwrite]
    exact loads.settings

/-- What is loaded again had been loaded before. -/
theorem loads_of_relisted (relisted : Relisted tree root content fields fields')
    {top' : Workspace} {listed' : List String} {lists' : List (List Workspace)}
    {configuration : Configuration}
    (loads : Loads (tree.overwrite content (root ++ [manifestName])) root top' listed' lists'
      configuration) :
    ∃ top listed lists, Loads tree root top listed lists configuration := by
  obtain ⟨listed, after, given, given', same⟩ := relisted.patterns
  obtain rfl : top'.manifest.fields = fields' :=
    Except.ok.inj ((root_of_loadWorkspace loads.atRoot).1.symm.trans relisted.after)
  obtain rfl := Except.ok.inj (loads.given.symm.trans given')
  have again := loads.atRoot
  rw [loadWorkspace_relisted relisted] at again
  cases atRoot : loadWorkspace tree root [] with
  | error fault =>
      rw [atRoot] at again
      cases again
  | ok top =>
      obtain rfl : top.manifest.fields = fields :=
        Except.ok.inj ((root_of_loadWorkspace atRoot).1.symm.trans relisted.before)
      obtain ⟨lists, found⟩ := exists_mapM_of_passes fun pattern member =>
        (passes_matched_overwrite atRoot loads.atRoot pattern).mp
          (passes_of_mapM loads.found pattern ((same pattern).mpr member))
      refine ⟨top, listed, lists, ?_, atRoot, given, found, ?_⟩
      · rw [← FileTree.exists_overwrite]
        exact loads.there
      · rw [← settings_overwrite]
        exact loads.settings

/-- **Patterns in another order, or given more than once, give the same project.** -/
theorem relisted_loadsAlike (proper : tree.hasProperNames)
    (relisted : Relisted tree root content fields fields') :
    LoadsAlike tree (tree.overwrite content (root ++ [manifestName])) root fields' := by
  cases loaded : load tree root with
  | error fault =>
      cases again : load (tree.overwrite content (root ++ [manifestName])) root with
      | error fault' => exact .inl ⟨fault, fault', loaded, again⟩
      | ok project =>
          obtain ⟨_, _, _, _, loads, -⟩ := loads_of_load again
          obtain ⟨_, _, _, before⟩ := loads_of_relisted relisted loads
          cases loaded.symm.trans (load_of_loads before)
  | ok project =>
      obtain ⟨top, listed, lists, configuration, loads, rfl⟩ := loads_of_load loaded
      obtain ⟨listed', lists', loads', same⟩ := loads_relisted relisted loads
      have proper' : (tree.overwrite content (root ++ [manifestName])).hasProperNames := by
        rwa [FileTree.hasProperNames_overwrite]
      obtain ⟨rest, once, workspaces, sorted, members⟩ := sorted_of_loads proper loads
      obtain ⟨rest', again, workspaces', sorted', members'⟩ := sorted_of_loads proper' loads'
      have nodup : ∀ {top : Workspace} {rest : List Workspace}, Workspaces (top :: rest) →
          rest.Nodup := fun all => (List.nodup_cons.mp all.places).2.of_map _
      have perm : rest.Perm rest' := by
        refine (List.perm_ext_iff_of_nodup (nodup workspaces) (nodup workspaces')).mpr fun w => ?_
        rw [members, members']
        exact and_congr_left fun elsewhere => (same w elsewhere).symm
      obtain rfl : rest = rest' := by
        refine perm.eq_of_pairwise ?_ sorted sorted'
        intro v w member member' first second
        exact workspaces.eq_of_place (List.mem_cons_of_mem _ member)
          (List.mem_cons_of_mem _ (perm.mem_iff.mpr member')) (place_eq_of_placeLe first second)
      exact .inr ⟨configuration, top, rest, once, again⟩

end

/-- How the project in a tree is loaded: its workspaces have one order, and the order of the
patterns and how often one is given do not matter. -/
structure LoadsCanonically (tree : FileTree) (root : Path) : Prop where
  canonical : ∀ project, load tree root = .ok project → ∃ fields listed,
    readManifestFields tree root (Path.text root) = .ok fields ∧ patterns fields = .ok listed ∧
      IsCanonical tree root listed project
  relisted : ∀ content fields fields', Relisted tree root content fields fields' →
    LoadsAlike tree (tree.overwrite content (root ++ [manifestName])) root fields'

/-- **Loading a project is canonical.** -/
theorem load_canonical (tree : FileTree) (root : Path) (proper : tree.hasProperNames) :
    LoadsCanonically tree root where
  canonical project loaded := by
    obtain ⟨top, listed, lists, configuration, loads, -⟩ := loads_of_load loaded
    obtain ⟨rest, once, workspaces, sorted, members⟩ := sorted_of_loads proper loads
    obtain rfl := Except.ok.inj (once.symm.trans loaded)
    exact ⟨top.manifest.fields, listed, (root_of_loadWorkspace loads.atRoot).1, loads.given,
      isCanonical_of_loads loads workspaces sorted members⟩
  relisted _ _ _ := relisted_loadsAlike proper

/-- The manifest of a project with twins that lists its one pattern twice. -/
def twiceManifest : ByteArray := "\x7b\"workspaces\":[\"*\",\"*\"],\"name\":\"r\"\x7d".toUTF8

/-- Its members. -/
def twiceFields : List (String × Json) :=
  [("workspaces", .array [.string "*", .string "*"]), ("name", .string "r")]

theorem relisted_twins : Relisted twinsTree ["project"] twiceManifest twinsFields twiceFields where
  before := readManifestFields_of_text rfl (by cbv)
  after := readManifestFields_of_text rfl (by cbv)
  others key other := by
    by_cases name : "name" = key
    · subst name
      rfl
    · simp [twinsFields, twiceFields, Entries.find?, name, Ne.symm other]
  patterns := ⟨["*"], ["*", "*"], rfl, rfl, by simp⟩

theorem load_canonical_twins :
    (∃ fields listed, readManifestFields twinsTree ["project"] (Path.text ["project"]) = .ok fields ∧
      patterns fields = .ok listed ∧ IsCanonical twinsTree ["project"] listed twins) ∧
    LoadsAlike twinsTree (twinsTree.overwrite twiceManifest ["project", manifestName]) ["project"]
      twiceFields :=
  have canonical := load_canonical twinsTree ["project"] twinsTree_hasProperNames
  ⟨canonical.canonical twins load_twins,
    canonical.relisted twiceManifest twinsFields twiceFields relisted_twins⟩

end Project

end WorkspacePolicy
