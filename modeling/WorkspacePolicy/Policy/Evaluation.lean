/-
# Policy.Evaluation — all conclusions of a policy

Evaluating a policy opens a session, asks on its main thread for the dependencies and
then for the fields, and closes the session in any case. The first answer that was thrown
or is invalid ends the evaluation. Both lists are sorted, and conclusions with the same
texts keep the order of the engine.
-/
import WorkspacePolicy.Policy.Basic
import WorkspacePolicy.Policy.Conclusion
import WorkspacePolicy.Session.AnswerSequence

namespace WorkspacePolicy

set_option autoImplicit false

/-- What the rules of a project enforce. -/
structure Conclusions where
  dependencies : List EnforcedDependency
  fields : List EnforcedField

namespace Policy

variable {σ : Type}

/-- The dependencies that the rules enforce. -/
def enforcedDependencies (policy : Policy σ) (thread : Thread σ) :
    Action σ (List EnforcedDependency) := do
  let sequence := AnswerSequence.fresh thread EnforcedDependency.query
  let found ← sequence.collect (EnforcedDependency.ofBindings policy.project)
  return found.mergeSort EnforcedDependency.le

/-- The fields that the rules enforce. -/
def enforcedFields (policy : Policy σ) (thread : Thread σ) : Action σ (List EnforcedField) := do
  let sequence := AnswerSequence.fresh thread EnforcedField.query
  let found ← sequence.collect (EnforcedField.ofBindings policy.project)
  return found.mergeSort EnforcedField.le

/-- What the rules enforce, asked on a thread. -/
def conclude (policy : Policy σ) (thread : Thread σ) : Action σ Conclusions := do
  let dependencies ← policy.enforcedDependencies thread
  let fields ← policy.enforcedFields thread
  return ⟨dependencies, fields⟩

/-- What the rules enforce. -/
def evaluate (policy : Policy σ) : Action (World σ) Conclusions := do
  let session ← policy.createSession
  (World.onBackend (policy.conclude session.main)).andFinally session.close

end Policy

end WorkspacePolicy
