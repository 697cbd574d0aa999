/-
# Proofs.Policy.Identity — a policy that asks for what is there

Rules that enforce exactly the dependencies that the database states make the engine answer
with the arguments of those facts (`Project.identityAnswers`). What comes back are the
dependencies of the manifests, except where a text or a missing range reads differently as a
term: the name `null` stands for a missing value, and a missing range is written as the empty
list, which is the text `[]` (`readBack`).

So the evaluation succeeds unless a workspace lies at `null` or a dependency is called `null`,
and gives back every dependency with its workspace, its name, its kind and the range as it
reads back (`evaluate_identity`).
-/
import WorkspacePolicy.Proofs.Policy.Conclusion
import WorkspacePolicy.Proofs.Policy.Evaluation

namespace WorkspacePolicy

set_option autoImplicit false

open Scripted

/-! ## Texts on their way through a term -/

namespace Term

/-- The name `null` is a missing value; every other name is its own text. -/
theorem linkText_atom (name : String) :
    (atom name).linkText = .ok (if name = "null" then none else some name) := by
  by_cases isNull : name = "null"
  · subst isNull
    rfl
  · by_cases isNil : name = nilName
    · subst isNil
      rfl
    · simp [linkText, Term.isNull, atom, isNull, isWritable, areWritable, toJson, isNil]

theorem linkText_nil : nil.linkText = .ok (some "[]") := rfl

/-- A range as it reads back from its term. -/
def readBack : Option String → Option String
  | none => some "[]"
  | some range => if range = "null" then none else some range

theorem linkText_ofText? (range : Option String) :
    (ofText? range).linkText = .ok (readBack range) := by
  cases range with
  | none => exact linkText_nil
  | some range => exact linkText_atom range

end Term

/-! ## The answers of the policy -/

namespace Project

/-- The dependencies of the manifests, one for each entry. -/
def declared (project : Project) : List EnforcedDependency :=
  project.workspaces.flatMap fun w =>
    DependencyType.all.flatMap fun kind =>
      (w.manifest.dependencies kind).map fun d => ⟨w, d.ident, d.range, kind⟩

/-- The answer that binds the variables of the query to the arguments of a fact about a
dependency. -/
def identityAnswer? : Term → Option Answer
  | .compound "workspace_has_dependency" [place, ident, range, kind] =>
    some (.bindings [("WorkspaceCwd", place), ("DependencyIdent", ident),
      ("DependencyRange", range), ("DependencyType", kind)])
  | _ => none

/-- One answer for each such fact of the database. -/
def identityAnswers (project : Project) : List Answer :=
  project.databaseTerms.filterMap identityAnswer?

/-- The answer for a dependency. -/
def identityAnswer (d : EnforcedDependency) : Answer :=
  .bindings [("WorkspaceCwd", .atom d.workspace.place), ("DependencyIdent", .atom d.ident.text),
    ("DependencyRange", .ofText? d.range), ("DependencyType", .atom d.kind.field)]

theorem identityAnswer?_dependencyTerm (w : Workspace) (kind : DependencyType) (d : Dependency) :
    identityAnswer? (dependencyTerm w.place kind d) =
      some (identityAnswer ⟨w, d.ident, d.range, kind⟩) := rfl

theorem filterMap_dependencyTerms (w : Workspace) :
    (dependencyTerms w).filterMap identityAnswer? =
      DependencyType.all.flatMap fun kind =>
        (w.manifest.dependencies kind).map fun d => identityAnswer ⟨w, d.ident, d.range, kind⟩ := by
  have ofKind : ∀ kind, ((w.manifest.dependencies kind).map (dependencyTerm w.place kind)).filterMap
      identityAnswer? = (w.manifest.dependencies kind).map fun d =>
        identityAnswer ⟨w, d.ident, d.range, kind⟩ := by
    intro kind
    rw [List.filterMap_map, ← List.filterMap_eq_map]
    exact List.filterMap_congr fun d _ => identityAnswer?_dependencyTerm w kind d
  simp only [dependencyTerms, List.filterMap_flatMap, ofKind]

/-- No other fact of the database makes an answer. -/
theorem identityAnswers_eq (project : Project) :
    project.identityAnswers = project.declared.map identityAnswer := by
  have ofWorkspace : ∀ w, (workspaceTerms w).filterMap identityAnswer? =
      (dependencyTerms w).filterMap identityAnswer? := by
    intro w
    rw [workspaceTerms, List.filterMap_append]
    rfl
  have kinds : (DependencyType.all.map fun kind =>
      Term.compound "dependency_type" [.atom kind.field]).filterMap identityAnswer? = [] := rfl
  rw [identityAnswers, databaseTerms, List.filterMap_append, kinds, List.nil_append,
    List.filterMap_flatMap, declared, List.map_flatMap]
  simp only [ofWorkspace, filterMap_dependencyTerms, List.map_flatMap, List.map_map,
    Function.comp_def]

/-! ## What becomes of each answer -/

/-- Neither the place of the workspace nor the name of the package reads as a missing value. -/
def isNamed (d : EnforcedDependency) : Prop := d.workspace.place ≠ "null" ∧ d.ident.text ≠ "null"

instance (d : EnforcedDependency) : Decidable (isNamed d) :=
  inferInstanceAs (Decidable (_ ∧ _))

/-- A dependency with its range as it reads back. -/
def readBack (d : EnforcedDependency) : EnforcedDependency :=
  { d with range := Term.readBack d.range }

/-- The failure of an answer without a workspace or a package. -/
def missing : Failure := .invalidRule "missing workspace or dependency ident"

theorem ofField?_field (kind : DependencyType) :
    DependencyType.ofField? kind.field = some kind := by
  cases kind <;> decide

variable {project : Project}

theorem mem_of_declared {d : EnforcedDependency} (member : d ∈ project.declared) :
    d.workspace ∈ project.workspaces ∧
      ∃ listed ∈ d.workspace.manifest.dependencies d.kind, listed.ident = d.ident := by
  simp only [declared, List.mem_flatMap, List.mem_map] at member
  obtain ⟨w, inProject, kind, -, listed, given, rfl⟩ := member
  exact ⟨inProject, listed, given, rfl⟩

theorem judge_named (workspaces : Workspaces project.workspaces) {d : EnforcedDependency}
    (member : d ∈ project.declared) (named : isNamed d) :
    project.judgeDependency (identityAnswer d) = .ok (readBack d) := by
  obtain ⟨inProject, listed, given, sameIdent⟩ := mem_of_declared member
  have parsed := (workspaces.wellFormed _ inProject).idents d.kind listed given
  rw [sameIdent] at parsed
  have asText : ∀ name : String, name ≠ "null" → (Term.atom name).linkText = .ok (some name) := by
    intro name other
    rw [Term.linkText_atom, if_neg other]
  have kindOther : d.kind.field ≠ "null" := by cases d.kind <;> decide
  exact EnforcedDependency.ofBindings_eq_ok_iff.mpr ⟨d.workspace.place, d.ident.text,
    some d.kind.field, Bindings.text_of_linkText rfl (asText _ named.1),
    Bindings.text_of_linkText rfl (asText _ named.2),
    Bindings.text_of_linkText rfl (Term.linkText_ofText? d.range),
    Bindings.text_of_linkText rfl (asText _ kindOther),
    workspaceNamed?_place workspaces inProject, Ident.parse?_text parsed, ofField?_field d.kind⟩

theorem judge_unnamed {d : EnforcedDependency} (unnamed : ¬ isNamed d) :
    project.judgeDependency (identityAnswer d) = .error missing := by
  refine EnforcedDependency.ofBindings_of_missing
    (Bindings.text_of_linkText rfl (Term.linkText_atom d.workspace.place))
    (Bindings.text_of_linkText rfl (Term.linkText_atom d.ident.text))
    (Bindings.text_of_linkText rfl (Term.linkText_ofText? d.range))
    (Bindings.text_of_linkText rfl (Term.linkText_atom d.kind.field)) ?_
  by_cases place : d.workspace.place = "null"
  · exact .inl (if_pos place)
  · by_cases ident : d.ident.text = "null"
    · exact .inr (if_pos ident)
    · exact absurd ⟨place, ident⟩ unnamed

end Project

/-! ## The policy -/

namespace Policy

variable {project : Project} {script : Script} {answers fields : List Answer}

/-- The dependencies come back with their ranges as they read back. -/
theorem dependencies_of_identity (workspaces : Workspaces project.workspaces)
    (serves : script.Serves answers fields) (perm : answers.Perm project.identityAnswers)
    (fieldsPass : ∀ a ∈ fields, Passes project.judgeField a)
    (named : ∀ d ∈ project.declared, Project.isNamed d) (rules : String) (w : World State) :
    ∃ conclusions, ((scripted project rules script).evaluate.result w).1 = .ok conclusions ∧
      conclusions.dependencies.Perm (project.declared.map Project.readBack) := by
  have inOrder : project.identityAnswers.mapM project.judgeDependency =
      .ok (project.declared.map Project.readBack) := by
    rw [Project.identityAnswers_eq]
    exact mapM_map fun d member => Project.judge_named workspaces member (named d member)
  obtain ⟨found, judged, same⟩ := mapM_perm perm.symm inOrder
  obtain ⟨foundFields, judgedFields⟩ := exists_mapM_of_passes fieldsPass
  refine ⟨⟨found.mergeSort EnforcedDependency.le, foundFields.mergeSort EnforcedField.le⟩, ?_,
    (List.mergeSort_perm found _).trans same.symm⟩
  rw [evaluate_of_serves serves, judged, judgedFields]
  rfl

theorem failure_of_identity (workspaces : Workspaces project.workspaces)
    (serves : script.Serves answers fields) (perm : answers.Perm project.identityAnswers)
    (unnamed : ∃ d ∈ project.declared, ¬ Project.isNamed d) (rules : String) (w : World State) :
    ((scripted project rules script).evaluate.result w).1 = .error Project.missing := by
  have judgedAlike : ∀ a ∈ answers, Passes project.judgeDependency a ∨
      project.judgeDependency a = .error Project.missing := by
    intro a member
    rw [perm.mem_iff, Project.identityAnswers_eq] at member
    obtain ⟨d, declared, rfl⟩ := List.mem_map.mp member
    by_cases named : Project.isNamed d
    · exact .inl ⟨_, Project.judge_named workspaces declared named⟩
    · exact .inr (Project.judge_unnamed named)
  obtain ⟨d, declared, notNamed⟩ := unnamed
  have bad : ∃ a ∈ answers, project.judgeDependency a = .error Project.missing := by
    refine ⟨Project.identityAnswer d, ?_, Project.judge_unnamed notNamed⟩
    rw [perm.mem_iff, Project.identityAnswers_eq]
    exact List.mem_map_of_mem declared
  rw [evaluate_of_serves serves, mapM_of_some_bad judgedAlike bad]
  rfl

/-- **A policy that asks for what is there gives back the dependencies as they read back.** -/
theorem evaluate_identity {tree : FileTree} {root : Path} (proper : tree.hasProperNames)
    (loaded : Project.load tree root = .ok project) (serves : script.Serves answers fields)
    (perm : answers.Perm project.identityAnswers)
    (fieldsPass : ∀ a ∈ fields, Passes project.judgeField a) (rules : String) (w : World State) :
    ((∀ d ∈ project.declared, Project.isNamed d) →
      ∃ conclusions, ((scripted project rules script).evaluate.result w).1 = .ok conclusions ∧
        conclusions.dependencies.Perm (project.declared.map Project.readBack)) ∧
    ((∃ d ∈ project.declared, ¬ Project.isNamed d) →
      ((scripted project rules script).evaluate.result w).1 = .error Project.missing) := by
  have workspaces := Project.workspaces_of_load proper loaded
  exact ⟨fun named => dependencies_of_identity workspaces serves perm fieldsPass named rules w,
    fun unnamed => failure_of_identity workspaces serves perm unnamed rules w⟩

theorem evaluate_identity_twins : ∃ conclusions,
    ((scripted Project.twins "" (Script.answering Project.twins.identityAnswers [])).evaluate.result
      (.initial .initial)).1 = .ok conclusions ∧
    conclusions.dependencies.Perm (Project.twins.declared.map Project.readBack) :=
  (evaluate_identity Project.twinsTree_hasProperNames Project.load_twins
    (Script.serves_answering _ []) (.refl _) (by simp) "" (.initial .initial)).1 (by decide)

/-! ## Projects that come back unchanged -/

/-- The policy gives back the project: every dependency as its manifest has it. -/
def GivesBack (project : Project) : Prop :=
  ∀ (rules : String) (script : Script) (w : World State) (answers fields : List Answer),
    script.Serves answers fields → answers.Perm project.identityAnswers →
    (∀ a ∈ fields, Passes project.judgeField a) →
    ∃ conclusions, ((scripted project rules script).evaluate.result w).1 = .ok conclusions ∧
      conclusions.dependencies.Perm project.declared

/-- Ranges that come back rearranged are there and are not called `null`. -/
theorem eq_of_readBack_perm {ranges : List (Option String)}
    (perm : (ranges.map Term.readBack).Perm ranges) {range : Option String}
    (member : range ∈ ranges) : range ≠ none ∧ range ≠ some "null" := by
  -- No range reads back as the text `null`, so none of them is that text.
  have noNull : some "null" ∉ ranges := by
    intro listed
    obtain ⟨before, -, reads⟩ := List.mem_map.mp (perm.mem_iff.mpr listed)
    rcases before with _ | before
    · exact absurd reads (by decide)
    · simp only [Term.readBack, Option.ite_none_left_eq_some, Option.some.injEq] at reads
      exact reads.1 reads.2
  refine ⟨?_, fun same => noNull (same ▸ member)⟩
  rintro rfl
  -- Only the text `null` reads back as a missing range.
  obtain ⟨before, listed, reads⟩ := List.mem_map.mp (perm.mem_iff.mpr member)
  rcases before with _ | before
  · exact absurd reads (by decide)
  · simp only [Term.readBack, ite_eq_left_iff, reduceCtorEq, imp_false, not_not] at reads
    exact noNull (reads ▸ listed)

theorem readBack_eq_self {d : EnforcedDependency} (there : d.range ≠ none)
    (noNull : d.range ≠ some "null") : Project.readBack d = d := by
  obtain ⟨w, ident, range, kind⟩ := d
  cases range with
  | none => exact absurd rfl there
  | some range =>
      have other : range ≠ "null" := fun same => noNull (congrArg some same)
      simp [Project.readBack, Term.readBack, other]

/-- Only projects without a missing range and without the name `null` come back unchanged. -/
theorem givesBack_iff (workspaces : Workspaces project.workspaces) : GivesBack project ↔
    ∀ d ∈ project.declared, Project.isNamed d ∧ d.range ≠ none ∧ d.range ≠ some "null" := by
  have serves := Script.serves_answering project.identityAnswers []
  constructor
  · intro givesBack
    obtain ⟨conclusions, gave, same⟩ :=
      givesBack "" _ (.initial .initial) _ _ serves (.refl _) (by simp)
    by_cases named : ∀ d ∈ project.declared, Project.isNamed d
    · obtain ⟨others, gave', reads⟩ := dependencies_of_identity workspaces serves (.refl _)
        (by simp) named "" (.initial .initial)
      rw [gave, Except.ok.injEq] at gave'
      subst gave'
      have ranges := (reads.symm.trans same).map EnforcedDependency.range
      have readRanges : (project.declared.map Project.readBack).map EnforcedDependency.range =
          (project.declared.map EnforcedDependency.range).map Term.readBack := by
        rw [List.map_map, List.map_map]
        rfl
      rw [readRanges] at ranges
      exact fun d member =>
        ⟨named d member, eq_of_readBack_perm ranges (List.mem_map_of_mem member)⟩
    · simp only [not_forall, exists_prop] at named
      rw [failure_of_identity workspaces serves (.refl _) named "" (.initial .initial)] at gave
      cases gave
  · intro plain rules script w answers fields serves perm fieldsPass
    have unchanged : project.declared.map Project.readBack = project.declared :=
      (List.map_congr_left fun d member =>
        readBack_eq_self (plain d member).2.1 (plain d member).2.2).trans (List.map_id _)
    have gaveBack := dependencies_of_identity workspaces serves perm fieldsPass
      (fun d member => (plain d member).1) rules w
    rwa [unchanged] at gaveBack

/-- A missing range comes back as `[]`, and the range `null` as a missing one. -/
theorem not_givesBack_twins : Project.load Project.twinsTree ["project"] = .ok Project.twins ∧
    ¬ GivesBack Project.twins := by
  have workspaces := Project.workspaces_of_load Project.twinsTree_hasProperNames Project.load_twins
  refine ⟨Project.load_twins, ?_⟩
  rw [givesBack_iff workspaces]
  decide

end Policy

end WorkspacePolicy
