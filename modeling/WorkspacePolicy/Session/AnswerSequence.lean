/-
# Session.AnswerSequence — the answers of a query, one by one

A sequence sends its query at the first step and asks for one answer at every step.
It has finished after the end, after a failure and when it is given up; then every
further step gives the end and asks for nothing.
-/
import WorkspacePolicy.Session.Pull
import WorkspacePolicy.Session.Thread

namespace WorkspacePolicy

set_option autoImplicit false

/-- The answers of a query on a thread. -/
inductive AnswerSequence (σ : Type) where
  | fresh (thread : Thread σ) (query : String)
  | running (thread : Thread σ)
  | finished

namespace AnswerSequence

variable {σ : Type}

/-- Asks a thread for its next answer. -/
def ask (thread : Thread σ) : StateM σ (Pull Bindings × AnswerSequence σ) := do
  match ← thread.nextAnswer.outcome with
  | .ok (some links) => return (.item links, .running thread)
  | .ok none => return (.done, .finished)
  | .error failure => return (.failed failure, .finished)

/-- One step. -/
def next : AnswerSequence σ → StateM σ (Pull Bindings × AnswerSequence σ)
  | .fresh thread query => do
    match ← (thread.startQuery query).outcome with
    | .ok () => ask thread
    | .error failure => return (.failed failure, .finished)
  | .running thread => ask thread
  | .finished => return (.done, .finished)

/-- Gives the sequence up. -/
def abandon (_ : AnswerSequence σ) : AnswerSequence σ := .finished

/-- A bound for the number of answers that are left. -/
def remaining (s : AnswerSequence σ) (state : σ) : Nat :=
  match s with
  | .running thread => thread.engine.remaining thread.number state
  | _ => 0

/-- All answers that are left. -/
def drain (s : AnswerSequence σ) : StateM σ (Drained Bindings × AnswerSequence σ) :=
  Pull.drainAll next remaining s

/-- All answers, each converted; the first that cannot be converted ends the sequence. -/
def collect {α : Type} (s : AnswerSequence σ) (convert : Bindings → Except Failure α) :
    Action σ (List α) :=
  ExceptT.mk do
    let step := fun s => do
      let (pull, s) ← next s
      return (pull.convert convert, s)
    let (drained, _) ← Pull.drainAll step remaining s
    return drained.toExcept

end AnswerSequence

end WorkspacePolicy
