/-
# Session.Thread — running one query at a time

A thread hands program text and queries to its engine and turns what comes back into
results: a refusal and a thrown term become the errors that they describe.
-/
import WorkspacePolicy.Engine.Basic

namespace WorkspacePolicy

set_option autoImplicit false

/-- A thread of an engine. -/
structure Thread (σ : Type) where
  engine : Engine σ
  number : Nat

namespace Thread

variable {σ : Type}

/-- Nothing for an acceptance, and the error of a refusal. -/
def settle : Acknowledgement → Action σ Unit
  | .accepted => pure ()
  | .refused term => throw (.logic (LogicError.ofTerm term))

/-- Adds program text. -/
def consult (t : Thread σ) (source : String) : Action σ Unit := do
  settle (← t.engine.consult t.number source).first

/-- Starts a query; the one before is given up. -/
def startQuery (t : Thread σ) (source : String) : Action σ Unit := do
  settle (← t.engine.query t.number source).first

/-- The next answer of the query, or `none` after the last one. -/
def nextAnswer (t : Thread σ) : Action σ (Option Bindings) := do
  match (← t.engine.answer t.number).first with
  | none => return none
  | some (.bindings links) => return some links
  | some (.thrown term) => throw (.logic (LogicError.ofTerm term))

end Thread

end WorkspacePolicy
