/-
# Proofs.Project.Breaks — where loading a project ends without a message

Most faults of a project are errors in what the user wrote, for which there is a message. Others
come from what loading is built on and have none: settings that are no YAML or hold a value that
the reader cannot make, a pattern that is absolute, has no segments or leads to a name that is too
long, and a directory in the place of a file. Since loading stops at its first fault, such a fault
is met exactly if everything before it passes (`Breaks`, `wordless_load_iff`).
-/
import WorkspacePolicy.CommandLine.Trouble
import WorkspacePolicy.Proofs.Files.TooLong
import WorkspacePolicy.Proofs.Project.Matched

namespace WorkspacePolicy

set_option autoImplicit false

/-! ## Faults without a message -/

/-- The faults of the reader of settings that have no message. -/
def Yaml.Fault.wordless : List Yaml.Fault :=
  [.malformed, .codeTooLarge, .tooManyPlaces, .emptyScalar, .noMoment, .momentOfMapping,
    .endlessDefault]

/-- There is no message for the fault. -/
def FileTree.Fault.IsWordless (fault : FileTree.Fault) : Prop := fault.isReported = false

/-- There is no message for the fault. -/
def Configuration.Fault.IsWordless (fault : Configuration.Fault) : Prop :=
  fault.isReported = false

/-- There is no message for the fault. -/
def Project.Fault.IsWordless (fault : Project.Fault) : Prop := fault.isReported = false

theorem Configuration.Fault.isWordless_yaml_iff {fault : Yaml.Fault} :
    IsWordless (.yaml fault) ↔ fault ∈ Yaml.Fault.wordless := by
  cases fault <;> simp [IsWordless, isReported, Yaml.Fault.isReported, Yaml.Fault.wordless]

theorem Project.Fault.isWordless_pattern_iff {fault : Glob.Fault} :
    IsWordless (.pattern fault) ↔ fault ≠ .starsInName :=
  beq_eq_false_iff_ne

/-! ## Files -/

namespace FileTree

variable {tree : FileTree} {place : Path}

/-- What is there has no text if it is a directory. -/
theorem wordless_readText_iff (there : tree.exists place) :
    FailsWith Fault.IsWordless (tree.readText place) ↔ tree.isDirectoryAt place := by
  obtain ⟨subtree, found⟩ := Option.isSome_iff_exists.mp there
  unfold readText isDirectoryAt
  rw [found]
  cases subtree with
  | file content =>
      simp only []
      split <;> simp [isDirectory, Fault.IsWordless, Fault.isReported]
  | directory entries => simp [isDirectory, Fault.IsWordless, Fault.isReported]

theorem exists_of_readText {text : String} (read : tree.readText place = .ok text) :
    tree.exists place := by
  unfold readText at read
  unfold «exists»
  cases found : tree.find? place with
  | none => simp [found] at read
  | some subtree => rfl

end FileTree

/-! ## Settings -/

namespace Configuration

variable {tree : FileTree} {root : Path}

theorem not_wordless_of_pathFault? {text : String} {fault : Fault}
    (found : pathFault? text = some fault) : ¬ fault.IsWordless := by
  obtain ⟨name, -, rfl⟩ := Option.map_eq_some_iff.mp found
  split <;> exact Bool.noConfusion

theorem not_wordless_ofSettings {rules engine : Setting} :
    ¬ FailsWith Fault.IsWordless (ofSettings root rules engine) := by
  unfold ofSettings
  split
  · exact fun fails => nomatch failsWith_error.mp fails
  split
  · exact fun fails => nomatch failsWith_error.mp fails
  split
  · next found => exact fun fails => not_wordless_of_pathFault? found (failsWith_error.mp fails)
  · exact not_failsWith_ok

/-- Every fault in the values of the settings has a message. -/
theorem not_wordless_ofYaml {document : Yaml.Document} :
    ¬ FailsWith Fault.IsWordless (ofYaml root document) := by
  unfold ofYaml
  split
  · exact not_wordless_ofSettings
  split
  · exact not_wordless_ofSettings
  · exact fun fails => nomatch failsWith_error.mp fails

theorem wordless_file_iff {place : Path} (there : tree.exists place) :
    FailsWith Fault.IsWordless ((tree.readText place).mapError Fault.file) ↔
      tree.isDirectoryAt place :=
  failsWith_mapError.trans (FileTree.wordless_readText_iff there)

/-- Where there are settings, they are read as a text, as a document and as settings. -/
theorem load_eq (there : tree.exists (root ++ [fileName])) : load tree root = (do
    let text ← (tree.readText (root ++ [fileName])).mapError Fault.file
    let document ← (Yaml.read text.toList).mapError Fault.yaml
    ofYaml root document) := by
  unfold load
  simp only [if_pos there]
  cases tree.readText (root ++ [fileName]) with
  | error fault => rfl
  | ok text =>
      simp only []
      show _ = (Yaml.read text.toList).mapError Fault.yaml >>= ofYaml root
      cases Yaml.read text.toList <;> rfl

theorem load_of_missing (missing : ¬ tree.exists (root ++ [fileName])) :
    load tree root = ofSettings root .absent .absent := by
  unfold load
  simp only [if_neg missing]

/-- The settings cannot be read, and there is no message. -/
inductive Breaks (tree : FileTree) (root : Path) : Prop
  | noFile (isDirectory : tree.isDirectoryAt (root ++ [fileName]))
  | noValue {text : String} {fault : Yaml.Fault}
      (found : tree.readText (root ++ [fileName]) = .ok text)
      (failed : Yaml.read text.toList = .error fault) (wordless : fault ∈ Yaml.Fault.wordless)

theorem wordless_load_iff : FailsWith Fault.IsWordless (load tree root) ↔ Breaks tree root := by
  constructor
  · intro fails
    by_cases there : tree.exists (root ++ [fileName])
    · rw [load_eq there] at fails
      rcases failsWith_bind.mp fails with first | ⟨text, found, fails⟩
      · exact .noFile ((wordless_file_iff there).mp first)
      rcases failsWith_bind.mp fails with first | ⟨document, -, never⟩
      · obtain ⟨fault, failed, wordless⟩ := failsWith_mapError.mp first
        exact .noValue (mapError_eq_ok_iff.mp found) failed (Fault.isWordless_yaml_iff.mp wordless)
      · exact absurd never not_wordless_ofYaml
    · rw [load_of_missing there] at fails
      exact absurd fails not_wordless_ofSettings
  · rintro (isDirectory | ⟨found, failed, wordless⟩)
    · have there := Glob.exists_of_isDirectoryAt isDirectory
      rw [load_eq there]
      exact failsWith_bind.mpr (.inl ((wordless_file_iff there).mpr isDirectory))
    · rw [load_eq (FileTree.exists_of_readText found)]
      have unmade := failsWith_mapError.mpr ⟨_, failed, Fault.isWordless_yaml_iff.mpr wordless⟩
      exact failsWith_bind.mpr
        (.inr ⟨_, mapError_eq_ok_iff.mpr found, failsWith_bind.mpr (.inl unmade)⟩)

end Configuration

/-! ## Patterns -/

namespace Glob

theorem eq_starsInName_of_segmentOf {part : String} {fault : Fault}
    (failed : segmentOf part = .error fault) : fault = .starsInName := by
  unfold segmentOf at failed
  split at failed
  · cases failed
  · split at failed
    · exact (Except.error.inj failed).symm
    · split at failed <;> cases failed

/-- A text that is absolute or has no segments is no pattern, whatever its parts are. -/
theorem wordless_parse_iff {text : String} :
    FailsWith (fun fault => fault ≠ .starsInName) (parse text) ↔
      Path.isAbsoluteText text ∨ ∀ part ∈ Path.parts text, part = "" ∨ part = "." := by
  have noSegment : ((Path.parts text).filter fun part => part != "" && part != ".").isEmpty ↔
      ∀ part ∈ Path.parts text, part = "" ∨ part = "." := by
    simp [or_iff_not_imp_left]
  unfold parse
  rw [← noSegment]
  by_cases absolute : Path.isAbsoluteText text
  · rw [if_pos absolute]
    exact iff_of_true (failsWith_error.mpr nofun) (.inl absolute)
  rw [if_neg absolute, or_iff_right absolute]
  by_cases empty : ((Path.parts text).filter fun part => part != "" && part != ".").isEmpty
  · simp only [if_pos empty]
    exact iff_of_true (failsWith_error.mpr nofun) empty
  · simp only [if_neg empty]
    refine iff_of_false ?_ empty
    rw [failsWith_bind, failsWith_mapM]
    rintro (⟨before, part, after, -, -, fault, failed, other⟩ | ⟨segments, -, never⟩)
    · exact other (eq_starsInName_of_segmentOf failed)
    · exact not_failsWith_ok never

end Glob

namespace Project

variable {tree : FileTree} {root : Path} {names : List String} {pattern : String}

theorem wordless_readManifestFields_iff {place : Path} {name : String}
    (there : tree.exists (place ++ [manifestName])) :
    FailsWith Fault.IsWordless (readManifestFields tree place name) ↔
      tree.isDirectoryAt (place ++ [manifestName]) := by
  rw [← FileTree.wordless_readText_iff there]
  unfold readManifestFields
  cases found : tree.readText (place ++ [manifestName]) with
  | error fault =>
      simp only [failsWith_error]
      exact Iff.rfl
  | ok text =>
      simp only [not_failsWith_ok, iff_false]
      split <;> simp [Fault.IsWordless, Fault.isReported]

/-- Every other fault of a manifest has a message. -/
theorem wordless_loadWorkspace_iff
    (there : tree.exists (names.foldl Path.step root ++ [manifestName])) :
    FailsWith Fault.IsWordless (loadWorkspace tree root names) ↔
      tree.isDirectoryAt (names.foldl Path.step root ++ [manifestName]) := by
  unfold loadWorkspace
  refine (failsWith_bind.trans (or_iff_left ?_)).trans (wordless_readManifestFields_iff there)
  rintro ⟨fields, -, later⟩
  cases made : Manifest.ofFields fields with
  | error fault => simp [made, failsWith_bind, Fault.IsWordless, Fault.isReported] at later
  | ok manifest =>
      cases under : Path.below? root (names.foldl Path.step root) <;>
        simp [made, under, Fault.IsWordless, Fault.isReported] at later

theorem wordless_candidates_iff {glob : Glob} :
    FailsWith (fun fault => Fault.IsWordless (.file fault)) (candidates tree root glob) ↔
      Glob.LeadsTooFar tree root glob.segments [] root := by
  have selected : FailsWith FileTree.Fault.IsWordless (glob.select tree root) ↔
      Glob.LeadsTooFar tree root glob.segments [] root := by
    constructor
    · rintro ⟨fault, failed, -⟩
      exact (Glob.select_eq_error_iff.mp failed).2
    · exact fun tooFar => ⟨_, Glob.select_eq_error_iff.mpr ⟨rfl, tooFar⟩, rfl⟩
  unfold candidates
  refine (failsWith_bind.trans (or_iff_left ?_)).trans selected
  rintro ⟨found, -, never⟩
  exact not_failsWith_ok never

/-- The directories of a pattern cannot be found, and there is no message. -/
theorem wordless_directoriesOf_iff :
    FailsWith Fault.IsWordless (directoriesOf tree root pattern) ↔
      (Path.isAbsoluteText pattern ∨ ∀ part ∈ Path.parts pattern, part = "" ∨ part = ".") ∨
        ∃ glob, Glob.parse pattern = .ok glob ∧
          Glob.LeadsTooFar tree root glob.segments [] root := by
  unfold directoriesOf
  simp only [failsWith_bind, failsWith_mapError, mapError_eq_ok_iff, Fault.isWordless_pattern_iff,
    Glob.wordless_parse_iff, wordless_candidates_iff]

/-- What a pattern adds cannot be found or loaded, and there is no message. -/
inductive PatternBreaks (tree : FileTree) (root : Path) (pattern : String) : Prop
  | absolute (fromTop : Path.isAbsoluteText pattern)
  | noSegment (empty : ∀ part ∈ Path.parts pattern, part = "" ∨ part = ".")
  | tooFar {glob : Glob} (parsed : Glob.parse pattern = .ok glob)
      (tooFar : Glob.LeadsTooFar tree root glob.segments [] root)
  | noFile {before after : List (List String)} {names : List String}
      (found : directoriesOf tree root pattern = .ok (before ++ names :: after))
      (passed : ∀ others ∈ before, Passes (loadWorkspace tree root) others)
      (isDirectory : tree.isDirectoryAt (names.foldl Path.step root ++ [manifestName]))

theorem wordless_matched_iff :
    FailsWith Fault.IsWordless (matched tree root pattern) ↔ PatternBreaks tree root pattern := by
  unfold matched
  rw [failsWith_bind, wordless_directoriesOf_iff]
  constructor
  · rintro (((absolute | empty) | ⟨glob, parsed, tooFar⟩) | ⟨listed, found, later⟩)
    · exact .absolute absolute
    · exact .noSegment empty
    · exact .tooFar parsed tooFar
    · obtain ⟨before, names, after, rfl, passed, fails⟩ := failsWith_mapM.mp later
      have foundBy := (mem_directoriesOf found).mp (List.mem_append_right before List.mem_cons_self)
      exact .noFile found passed ((wordless_loadWorkspace_iff foundBy.hasManifest).mp fails)
  · rintro (absolute | empty | ⟨parsed, tooFar⟩ | ⟨found, passed, isDirectory⟩)
    · exact .inl (.inl (.inl absolute))
    · exact .inl (.inl (.inr empty))
    · exact .inl (.inr ⟨_, parsed, tooFar⟩)
    · have there := Glob.exists_of_isDirectoryAt isDirectory
      refine .inr ⟨_, found, failsWith_mapM.mpr ⟨_, _, _, rfl, passed, ?_⟩⟩
      exact (wordless_loadWorkspace_iff there).mpr isDirectory

/-! ## Projects -/

/-- Loading meets something for which there is no message, after everything before it passed. -/
inductive Breaks (tree : FileTree) (root : Path) : Prop
  | noFile (isDirectory : tree.isDirectoryAt (root ++ [manifestName]))
  | pattern {top : Workspace} {before after : List String} {pattern : String}
      (atRoot : loadWorkspace tree root [] = .ok top)
      (given : patterns top.manifest.fields = .ok (before ++ pattern :: after))
      (passed : ∀ other ∈ before, Passes (matched tree root) other)
      (breaks : PatternBreaks tree root pattern)
  | settings {top : Workspace} {listed : List String}
      (atRoot : loadWorkspace tree root [] = .ok top)
      (given : patterns top.manifest.fields = .ok listed)
      (passed : ∀ pattern ∈ listed, Passes (matched tree root) pattern)
      (breaks : Configuration.Breaks tree root)

theorem not_wordless_patterns {fields : List (String × Json)} :
    ¬ FailsWith Fault.IsWordless (patterns fields) := by
  rintro ⟨fault, failed, wordless⟩
  unfold patterns at failed
  simp only [] at failed
  split at failed
  · cases failed
  split at failed
  · cases failed
  · obtain rfl := Except.error.inj failed
    cases wordless

/-- The first of the patterns that does not pass breaks. -/
theorem wordless_addPatterns_iff {found : List Workspace} {listed : List String} :
    FailsWith Fault.IsWordless (addPatterns tree root found listed) ↔
      ∃ before pattern after, listed = before ++ pattern :: after ∧
        (∀ other ∈ before, Passes (matched tree root) other) ∧
        PatternBreaks tree root pattern := by
  rw [addPatterns_eq, failsWith_map, failsWith_mapM]
  simp only [wordless_matched_iff]

theorem exists_addPatterns_iff {found : List Workspace} {listed : List String} :
    (∃ all, addPatterns tree root found listed = .ok all) ↔
      ∀ pattern ∈ listed, Passes (matched tree root) pattern := by
  rw [← passes_mapM_iff, Passes, addPatterns_eq]
  cases listed.mapM (matched tree root) <;> simp [Except.map]

theorem exists_of_loadWorkspace {w : Workspace} (loaded : loadWorkspace tree root names = .ok w) :
    tree.exists (names.foldl Path.step root ++ [manifestName]) := by
  obtain ⟨fields, -, -, read, -, -, -⟩ := loadWorkspace_eq_ok loaded
  unfold readManifestFields at read
  cases text : tree.readText (names.foldl Path.step root ++ [manifestName]) with
  | error fault => simp [text] at read
  | ok chars => exact FileTree.exists_of_readText text

theorem wordless_configuration_iff :
    FailsWith Fault.IsWordless ((Configuration.load tree root).mapError Fault.configuration) ↔
      Configuration.Breaks tree root :=
  failsWith_mapError.trans Configuration.wordless_load_iff

/-- Where there is a manifest at the root, loading is the sequence of its parts. -/
theorem load_eq (there : tree.exists (root ++ [manifestName])) : load tree root = (do
    let top ← loadWorkspace tree root []
    let listed ← patterns top.manifest.fields
    let found ← addPatterns tree root [top] listed
    let configuration ← (Configuration.load tree root).mapError Fault.configuration
    return ⟨root, configuration, found.mergeSort placeLe⟩) := by
  unfold load
  cases Configuration.load tree root <;> simp only [there] <;> rfl

theorem load_of_missing (missing : ¬ tree.exists (root ++ [manifestName])) :
    load tree root = .error (.noManifest root) := by
  unfold load
  simp only [missing]
  rfl

/-- **Loading a project ends without a message exactly where the project breaks.** -/
theorem wordless_load_iff : FailsWith Fault.IsWordless (load tree root) ↔ Breaks tree root := by
  constructor
  · intro fails
    by_cases there : tree.exists (root ++ [manifestName])
    · rw [load_eq there] at fails
      rcases failsWith_bind.mp fails with first | ⟨top, atRoot, fails⟩
      · exact .noFile ((wordless_loadWorkspace_iff there).mp first)
      rcases failsWith_bind.mp fails with first | ⟨listed, given, fails⟩
      · exact absurd first not_wordless_patterns
      rcases failsWith_bind.mp fails with first | ⟨found, added, fails⟩
      · obtain ⟨before, pattern, after, rfl, passed, breaks⟩ := wordless_addPatterns_iff.mp first
        exact .pattern atRoot given passed breaks
      rcases failsWith_bind.mp fails with first | ⟨configuration, -, never⟩
      · have passed := exists_addPatterns_iff.mp ⟨found, added⟩
        exact .settings atRoot given passed (wordless_configuration_iff.mp first)
      · exact absurd never not_failsWith_ok
    · rw [load_of_missing there, failsWith_error] at fails
      cases fails
  · rintro (isDirectory | ⟨atRoot, given, passed, breaks⟩ | ⟨atRoot, given, passed, breaks⟩)
    · have there := Glob.exists_of_isDirectoryAt isDirectory
      rw [load_eq there]
      exact failsWith_bind.mpr (.inl ((wordless_loadWorkspace_iff there).mpr isDirectory))
    · have there : tree.exists (root ++ [manifestName]) := exists_of_loadWorkspace atRoot
      rw [load_eq there, atRoot, ok_bind, given, ok_bind]
      refine failsWith_bind.mpr (.inl (wordless_addPatterns_iff.mpr ?_))
      exact ⟨_, _, _, rfl, passed, breaks⟩
    · have there : tree.exists (root ++ [manifestName]) := exists_of_loadWorkspace atRoot
      obtain ⟨all, added⟩ := exists_addPatterns_iff.mpr passed
      rw [load_eq there, atRoot, ok_bind, given, ok_bind, added, ok_bind]
      exact failsWith_bind.mpr (.inl (wordless_configuration_iff.mpr breaks))

end Project

end WorkspacePolicy
