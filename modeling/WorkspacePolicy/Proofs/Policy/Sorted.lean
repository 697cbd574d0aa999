/-
# Proofs.Policy.Sorted — every valid answer is found in the results, in its place

An evaluation on an engine that serves gives one conclusion for each answer: the dependencies
with a range before those that must not be there, by the texts of their workspace, package,
range and kind in each part (`EnforcedDependency.InOrder`), and the fields by workspace and
path, the values of one field ascending and before a missing value (`EnforcedField.InOrder`).
Conclusions with one sort key stay in the order of their answers (`evaluate_isArranged`).

The marks in the sort keys are what puts missing values last: at the first difference of two
keys either the marks differ or the texts do.
-/
import Mathlib.Data.List.Lex
import WorkspacePolicy.Proofs.Policy.Identity
import WorkspacePolicy.Proofs.Policy.Order

namespace WorkspacePolicy

set_option autoImplicit false

open Scripted

/-! ## Marks -/

section

variable {value other : Option String}

theorem presenceMark_eq_iff :
    presenceMark value = presenceMark other ↔ value.isSome = other.isSome := by
  cases value <;> cases other <;> simp [presenceMark]

/-- The mark of a value that is there comes first. -/
theorem presenceMark_precedes_iff : Text.Precedes (presenceMark value) (presenceMark other) ↔
    value.isSome ∧ other = none := by
  have ahead : Text.Precedes "0" "1" := by
    have ordered : Text.le "0" "1" = true := by decide
    exact (Text.le_iff.mp ordered).resolve_left (by decide)
  have behind : ¬ Text.Precedes "1" "0" := fun before =>
    absurd (Text.le_iff.mpr (.inr before)) (by decide)
  cases value <;> cases other <;>
    simp [presenceMark, ahead, behind, Text.not_precedes_self]

end

/-! ## Dependencies -/

namespace EnforcedDependency

/-- The texts that tell apart the dependencies with a range, and those without one. -/
def names (d : EnforcedDependency) : List String :=
  [d.workspace.ident.text, d.ident.text, d.range.getD "", d.kind.field]

/-- One dependency may stand before another. -/
inductive InOrder (d e : EnforcedDependency) : Prop
  | missing (there : d.range.isSome) (absent : e.range = none)
  | names (alike : d.range.isSome = e.range.isSome)
      (ascend : d.names = e.names ∨ List.Lex Text.Precedes d.names e.names)

theorem sortKey_eq (d : EnforcedDependency) : d.sortKey = [presenceMark d.range] ++ d.names := rfl

theorem inOrder_of_le {d e : EnforcedDependency} (ordered : le d e) : InOrder d e := by
  rw [le, sortKey_eq, sortKey_eq] at ordered
  rcases Text.leNames_append ordered rfl with marks | ⟨marks, names⟩
  · obtain ⟨there, absent⟩ := presenceMark_precedes_iff.mp (by simpa using marks)
    exact .missing there absent
  · have alike := presenceMark_eq_iff.mp (List.cons.inj marks).1
    exact .names alike (Text.leNames_iff.mp names)

end EnforcedDependency

/-! ## Fields -/

namespace EnforcedField

/-- The texts that name a field of a workspace. -/
def names (f : EnforcedField) : List String :=
  [f.workspace.ident.text, f.path]

/-- One field may stand before another. -/
inductive InOrder (f g : EnforcedField) : Prop
  | names (ascend : List.Lex Text.Precedes f.names g.names)
  | missing (same : f.names = g.names) (absent : g.value = none)
  | values (same : f.names = g.names) {value other : String} (first : f.value = some value)
      (second : g.value = some other) (ascend : value = other ∨ Text.Precedes value other)

theorem sortKey_eq (f : EnforcedField) :
    f.sortKey = f.names ++ ([presenceMark f.value] ++ [f.value.getD ""]) := rfl

theorem inOrder_of_le {f g : EnforcedField} (ordered : le f g) : InOrder f g := by
  rw [le, sortKey_eq, sortKey_eq] at ordered
  rcases Text.leNames_append ordered rfl with names | ⟨same, ordered⟩
  · exact .names names
  rcases Text.leNames_append ordered rfl with marks | ⟨marks, texts⟩
  · exact .missing same (presenceMark_precedes_iff.mp (by simpa using marks)).2
  have alike := presenceMark_eq_iff.mp (List.cons.inj marks).1
  cases second : g.value with
  | none => exact .missing same second
  | some other =>
      obtain ⟨value, first⟩ := Option.isSome_iff_exists.mp (alike.trans (by rw [second]; rfl))
      exact .values same first second (by simpa [first, second, Text.leNames_iff] using texts)

end EnforcedField

namespace Policy

variable {project : Project} {rules : String} {script : Script} {dependencies fields : List Answer}

/-- **Every valid answer is found in the results exactly once and in its place.** -/
theorem evaluate_isArranged (serves : script.Serves dependencies fields)
    (dependenciesPass : ∀ a ∈ dependencies, Passes project.judgeDependency a)
    (fieldsPass : ∀ a ∈ fields, Passes project.judgeField a) (w : World State) :
    ∃ found foundFields conclusions,
      dependencies.mapM project.judgeDependency = .ok found ∧
      fields.mapM project.judgeField = .ok foundFields ∧
      ((scripted project rules script).evaluate.result w).1 = .ok conclusions ∧
      Text.IsArranged EnforcedDependency.sortKey EnforcedDependency.InOrder found
        conclusions.dependencies ∧
      Text.IsArranged EnforcedField.sortKey EnforcedField.InOrder foundFields
        conclusions.fields := by
  obtain ⟨found, judged⟩ := exists_mapM_of_passes dependenciesPass
  obtain ⟨foundFields, judgedFields⟩ := exists_mapM_of_passes fieldsPass
  refine ⟨found, foundFields,
    ⟨found.mergeSort EnforcedDependency.le, foundFields.mergeSort EnforcedField.le⟩,
    judged, judgedFields, ?_, ?_, ?_⟩
  · rw [evaluate_of_serves serves, judged, judgedFields]
    rfl
  · exact Text.isArranged_mergeSort (fun _ _ => EnforcedDependency.inOrder_of_le) found
  · exact Text.isArranged_mergeSort (fun _ _ => EnforcedField.inOrder_of_le) foundFields

/-- What the policy that asks for what is there hears about the twins, and a field for each. -/
theorem evaluate_isArranged_twins :
    ∃ found foundFields conclusions,
      Project.twins.identityAnswers.mapM Project.twins.judgeDependency = .ok found ∧
      [fieldAnswer "b", fieldAnswer "a"].mapM Project.twins.judgeField = .ok foundFields ∧
      ((scripted Project.twins "" (.answering Project.twins.identityAnswers
        [fieldAnswer "b", fieldAnswer "a"])).evaluate.result (.initial .initial)).1 =
          .ok conclusions ∧
      Text.IsArranged EnforcedDependency.sortKey EnforcedDependency.InOrder found
        conclusions.dependencies ∧
      Text.IsArranged EnforcedField.sortKey EnforcedField.InOrder foundFields
        conclusions.fields := by
  have workspaces := Project.workspaces_of_load Project.twinsTree_hasProperNames Project.load_twins
  have named : ∀ d ∈ Project.twins.declared, Project.isNamed d := by decide
  refine evaluate_isArranged (Script.serves_answering _ _) ?_ ?_ (.initial .initial)
  · rw [Project.identityAnswers_eq]
    refine List.forall_mem_map.mpr fun d declared => ?_
    exact ⟨_, Project.judge_named workspaces declared (named d declared)⟩
  · simp only [List.mem_cons, List.not_mem_nil, or_false, forall_eq_or_imp, forall_eq]
    exact ⟨⟨_, judgeField_fieldAnswer workspaces (.tail _ (.tail _ (.head _)))⟩,
      ⟨_, judgeField_fieldAnswer workspaces (.tail _ (.head _))⟩⟩

end Policy

end WorkspacePolicy
