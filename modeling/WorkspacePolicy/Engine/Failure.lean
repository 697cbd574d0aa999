/-
# Engine.Failure — why an operation ends early

An operation on an engine, a session or a policy gives a result or ends with a failure.
The failures of the logic itself are diagnoses; all others concern the engine, the
session or the form of an answer.
-/
import WorkspacePolicy.Diagnosis.Interpret
import WorkspacePolicy.Engine.Bridge.Reply
import WorkspacePolicy.Registry
import WorkspacePolicy.Term.Link

namespace WorkspacePolicy

set_option autoImplicit false

/-- Why an operation ends early. -/
inductive Failure where
  | logic (error : LogicError)
  | unknownEngine (fault : Registry.Unknown)
  | bridge (fault : Bridge.Fault)
  /-- An answer does not bind a variable that it has to bind. -/
  | unboundVariable (name : String)
  | unwritable (fault : Term.Unwritable)
  | sessionClosed
  /-- There is no session, thread or sequence with a number. -/
  | unknownNumber
  /-- A sequence has more answers than its engine announced. -/
  | endless

def Failure.message : Failure → String
  | .logic error => error.message
  | .unknownEngine fault => fault.message
  | .bridge fault => fault.message
  | .unboundVariable name => name
  | .unwritable fault => fault.message
  | .sessionClosed => "Session is closed"
  | .unknownNumber => "list index out of range"
  | .endless => "Answers do not end"

/-- A step on a state that gives a result or fails; either way the state goes on. -/
abbrev Action (σ α : Type) := ExceptT Failure (StateM σ) α

namespace Action

variable {σ τ α : Type}

/-- The result of an action and the state after it. -/
def result (action : Action σ α) (state : σ) : Except Failure α × σ :=
  action.run state

/-- An action on a part of a larger state. -/
def onPart (read : τ → σ) (write : σ → τ → τ) (action : Action σ α) : Action τ α :=
  ExceptT.mk fun state =>
    let (outcome, part) := action.result (read state)
    (outcome, write part state)

/-- The outcome of an action as a value. -/
def outcome (action : Action σ α) : StateM σ (Except Failure α) :=
  action.run

/-- Runs `last` after an action, whatever its outcome. A failure of `last` is the failure of
the whole. -/
def andFinally (action : Action σ α) (last : Action σ Unit) : Action σ α :=
  ExceptT.mk do
    let first ← action.outcome
    match ← last.outcome with
    | .error failure => return .error failure
    | .ok () => return first

/-- Runs `cleanup` after an action that fails. A failure of `cleanup` takes the place of the
first one. -/
def onFailure (action : Action σ α) (cleanup : Action σ Unit) : Action σ α :=
  ExceptT.mk do
    match ← action.outcome with
    | .ok value => return .ok value
    | .error failure =>
      match ← cleanup.outcome with
      | .ok () => return .error failure
      | .error later => return .error later

end Action

end WorkspacePolicy
