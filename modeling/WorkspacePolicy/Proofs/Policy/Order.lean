/-
# Proofs.Policy.Order — the order of the engine does not show, unless names are shared

An evaluation sorts its conclusions by texts in which a workspace occurs by its name, not by
its place. So the order in which an engine gives its answers cannot be seen exactly in those
projects whose workspaces all have names of their own (`orderIndependent_iff`): where two
workspaces share a name, conclusions about them have one sort key and stay in the order of the
engine.
-/
import WorkspacePolicy.Proofs.Policy.Conclusion
import WorkspacePolicy.Proofs.Policy.Evaluation
import WorkspacePolicy.Proofs.Text.Order

namespace WorkspacePolicy

set_option autoImplicit false

open Scripted

variable {project : Project}

/-! ## Judged answers -/

theorem Project.mem_of_judgeDependency {answer : Answer} {d : EnforcedDependency}
    (judged : project.judgeDependency answer = .ok d) :
    d.workspace ∈ project.workspaces ∧ d.ident.IsParsed := by
  cases answer with
  | bindings links => exact EnforcedDependency.mem_of_ofBindings judged
  | thrown term => cases judged

theorem Project.mem_of_judgeField {answer : Answer} {f : EnforcedField}
    (judged : project.judgeField answer = .ok f) : f.workspace ∈ project.workspaces := by
  cases answer with
  | bindings links => exact EnforcedField.mem_of_ofBindings judged
  | thrown term => cases judged

/-- Dependencies that were concluded are sorted alike, in whatever order they come. -/
theorem EnforcedDependency.mergeSort_eq_of_perm (apart : project.NamesApart)
    {answers : List Answer} {found others : List EnforcedDependency}
    (judged : answers.mapM project.judgeDependency = .ok found) (perm : found.Perm others) :
    found.mergeSort le = others.mergeSort le := by
  refine Text.mergeSort_eq_of_perm ?_ perm
  intro d member e member' same
  obtain ⟨_, _, given⟩ := mem_of_mapM judged d member
  obtain ⟨_, _, given'⟩ := mem_of_mapM judged e member'
  obtain ⟨inProject, parsed⟩ := Project.mem_of_judgeDependency given
  obtain ⟨inProject', parsed'⟩ := Project.mem_of_judgeDependency given'
  exact eq_of_sortKey apart inProject inProject' parsed parsed' same

theorem EnforcedField.mergeSort_eq_of_perm (apart : project.NamesApart)
    {answers : List Answer} {found others : List EnforcedField}
    (judged : answers.mapM project.judgeField = .ok found) (perm : found.Perm others) :
    found.mergeSort le = others.mergeSort le := by
  refine Text.mergeSort_eq_of_perm ?_ perm
  intro f member g member' same
  obtain ⟨_, _, given⟩ := mem_of_mapM judged f member
  obtain ⟨_, _, given'⟩ := mem_of_mapM judged g member'
  have inProject := Project.mem_of_judgeField given
  have inProject' := Project.mem_of_judgeField given'
  exact eq_of_sortKey apart inProject inProject' same

namespace Policy

/-! ## Two engines with the same answers -/

/-- Engines that give the same valid answers, each in an order of its own, lead to the same
conclusions, whatever happened in their worlds before. -/
def OrderIndependent (project : Project) : Prop :=
  ∀ (rules : String) (script script' : Script) (w w' : World State)
    (dependencies dependencies' fields fields' : List Answer),
    script.Serves dependencies fields → script'.Serves dependencies' fields' →
    dependencies.Perm dependencies' → fields.Perm fields' →
    (∀ a ∈ dependencies, Passes project.judgeDependency a) →
    (∀ a ∈ fields, Passes project.judgeField a) →
    ∃ conclusions, ((scripted project rules script).evaluate.result w).1 = .ok conclusions ∧
      ((scripted project rules script').evaluate.result w').1 = .ok conclusions

theorem orderIndependent_of_namesApart (apart : project.NamesApart) : OrderIndependent project := by
  intro rules script script' w w' dependencies dependencies' fields fields' serves serves'
    dependencyPerm fieldPerm dependenciesPass fieldsPass
  obtain ⟨found, judged⟩ := exists_mapM_of_passes dependenciesPass
  obtain ⟨found', judged', perm⟩ := mapM_perm dependencyPerm judged
  obtain ⟨foundFields, judgedFields⟩ := exists_mapM_of_passes fieldsPass
  obtain ⟨foundFields', judgedFields', permFields⟩ := mapM_perm fieldPerm judgedFields
  refine ⟨⟨found.mergeSort EnforcedDependency.le, foundFields.mergeSort EnforcedField.le⟩, ?_, ?_⟩
  · rw [evaluate_of_serves serves, judged, judgedFields]
    rfl
  · rw [evaluate_of_serves serves', judged', judgedFields',
      EnforcedDependency.mergeSort_eq_of_perm apart judged perm,
      EnforcedField.mergeSort_eq_of_perm apart judgedFields permFields]
    rfl

/-! ## Workspaces that share a name -/

/-- An answer that asks for the same field in whatever workspace it names. -/
def fieldAnswer (place : String) : Answer :=
  .bindings [("WorkspaceCwd", .string place), ("FieldPath", .string "license"),
    ("FieldValue", .string "MIT")]

/-- The conclusion of that answer. -/
def fieldOf (w : Workspace) : EnforcedField :=
  ⟨w, "license", some (Term.canonicalJson "MIT")⟩

theorem judgeField_fieldAnswer (workspaces : Workspaces project.workspaces) {w : Workspace}
    (member : w ∈ project.workspaces) :
    project.judgeField (fieldAnswer w.place) = .ok (fieldOf w) :=
  EnforcedField.ofBindings_eq_ok_iff.mpr
    ⟨w.place, Bindings.text_of_linkText rfl rfl, Bindings.text_of_linkText rfl rfl,
      Bindings.json_of_linkJson rfl rfl, Project.workspaceNamed?_place workspaces member⟩

theorem mergeSort_pair {f g : EnforcedField} (same : f.sortKey = g.sortKey) :
    [f, g].mergeSort EnforcedField.le = [f, g] := by
  refine List.mergeSort_of_pairwise ?_
  have inOrder : EnforcedField.le f g = true := by
    rw [EnforcedField.le, same, Text.leNames_eq_dictionary]
    exact Text.dictionary_refl g.sortKey
  simpa using inOrder

/-- An engine that answers for two places, in this order. -/
def twoFields (place other : String) : Script :=
  .answering [] [fieldAnswer place, fieldAnswer other]

theorem serves_twoFields (place other : String) :
    (twoFields place other).Serves [] [fieldAnswer place, fieldAnswer other] :=
  Script.serves_answering [] [fieldAnswer place, fieldAnswer other]

/-- Two such answers lead to two fields, in the order of the answers if their keys agree. -/
theorem evaluate_fieldAnswers (workspaces : Workspaces project.workspaces) {v w : Workspace}
    (member : v ∈ project.workspaces) (member' : w ∈ project.workspaces)
    (same : v.ident.text = w.ident.text) (before : World State) :
    ((scripted project "" (twoFields v.place w.place)).evaluate.result before).1 =
      .ok ⟨[], [fieldOf v, fieldOf w]⟩ := by
  have keys : (fieldOf v).sortKey = (fieldOf w).sortKey := by
    simp only [EnforcedField.sortKey, fieldOf, same]
  have fields : [fieldAnswer v.place, fieldAnswer w.place].mapM project.judgeField =
      .ok [fieldOf v, fieldOf w] := by
    rw [List.mapM_cons, List.mapM_cons, judgeField_fieldAnswer workspaces member,
      judgeField_fieldAnswer workspaces member']
    rfl
  rw [evaluate_of_serves (serves_twoFields _ _), fields, List.mapM_nil]
  simp only [pure_bind, ok_bind, mergeSort_pair keys, List.mergeSort_nil]
  rfl

theorem namesApart_of_orderIndependent (workspaces : Workspaces project.workspaces)
    (independent : OrderIndependent project) : project.NamesApart := by
  intro v member w member' same
  have pass : ∀ a ∈ [fieldAnswer v.place, fieldAnswer w.place], Passes project.judgeField a := by
    simp only [List.mem_cons, List.not_mem_nil, or_false, forall_eq_or_imp, forall_eq]
    exact ⟨⟨_, judgeField_fieldAnswer workspaces member⟩,
      ⟨_, judgeField_fieldAnswer workspaces member'⟩⟩
  -- Asking first about one of them and then about the other shows which one came first.
  obtain ⟨conclusions, first, second⟩ := independent "" _ _ (.initial .initial) (.initial .initial)
    [] [] _ _ (serves_twoFields v.place w.place) (serves_twoFields w.place v.place) (.refl [])
    (.swap _ _ []) (by simp) pass
  rw [evaluate_fieldAnswers workspaces member member' same] at first
  rw [evaluate_fieldAnswers workspaces member' member same.symm, ← first] at second
  have fields := congrArg Conclusions.fields (Except.ok.inj second)
  exact (congrArg EnforcedField.workspace (List.cons.inj fields).1).symm

/-- **The order of the engine does not show exactly where all workspaces have names of their
own.** -/
theorem orderIndependent_iff {tree : FileTree} {root : Path} (proper : tree.hasProperNames)
    (loaded : Project.load tree root = .ok project) :
    OrderIndependent project ↔ project.NamesApart :=
  ⟨namesApart_of_orderIndependent (Project.workspaces_of_load proper loaded),
    orderIndependent_of_namesApart⟩

/-- In a project with two packages of one name the order of the engine shows. -/
theorem not_orderIndependent_twins : ¬ OrderIndependent Project.twins := by
  intro independent
  have apart := (orderIndependent_iff Project.twinsTree_hasProperNames Project.load_twins).mp
    independent
  have same := apart (Project.twin "a" "x" _ Project.firstFields) (.tail _ (.head _))
    (Project.twin "b" "x" _ Project.secondFields) (.tail _ (.tail _ (.head _))) rfl
  exact absurd (congrArg Workspace.place same) (by decide)

end Policy

end WorkspacePolicy
