/-
# Engine.Basic — what a logic engine offers

An engine runs sessions, each with its own program, and threads in them. A thread
takes program text, starts one query at a time and gives its answers one by one. All
of this changes the state of the engine, of type `σ`; sessions and threads are numbers
that the engine gives out.

An engine reports through callbacks and may call one more than once. Only the first
call counts, and a `Delivery` keeps the others to show that they do not.
-/
import WorkspacePolicy.Engine.Failure

namespace WorkspacePolicy

set_option autoImplicit false

/-- The variables of a query with their values, in the order of the engine. -/
abbrev Bindings := List (String × Term)

/-- One answer: bindings, or a term that was thrown. -/
inductive Answer where
  | bindings (links : Bindings)
  | thrown (term : Term)

/-- How an engine takes a program or a query. -/
inductive Acknowledgement where
  | accepted
  | refused (term : Term)

/-- What a callback was called with, first and after that. -/
structure Delivery (α : Type) where
  first : α
  repeats : List α := []

/-- A new session with its main thread. -/
structure Opening where
  session : Nat
  main : Nat

/-- A logic engine with a state of type `σ`. -/
structure Engine (σ : Type) where
  name : String
  /-- The program that every session gets between linkage and source. -/
  supportLibrary : String
  /-- Makes the engine ready; comes before every new session. -/
  setup : Action σ Unit
  createSession : Action σ Opening
  /-- Adds a thread to a session. -/
  createThread : Nat → Action σ Nat
  /-- Releases a session. -/
  close : Nat → Action σ Unit
  /-- Adds program text to the session of a thread. -/
  consult : Nat → String → Action σ (Delivery Acknowledgement)
  /-- Starts a query on a thread. -/
  query : Nat → String → Action σ (Delivery Acknowledgement)
  /-- The next answer of the query of a thread; `none` if there is none. -/
  answer : Nat → Action σ (Delivery (Option Answer))
  /-- A bound for the number of answers that a thread still has. -/
  remaining : Nat → σ → Nat

namespace Engine

variable {σ τ : Type}

/-- The program that most engines need. -/
def defaultSupportLibrary : String := ":- use_module(library(lists)).\n"

/-- An engine whose state is a part of a larger state. -/
def onPart (engine : Engine σ) (read : τ → σ) (write : σ → τ → τ) : Engine τ where
  name := engine.name
  supportLibrary := engine.supportLibrary
  setup := engine.setup.onPart read write
  createSession := engine.createSession.onPart read write
  createThread session := (engine.createThread session).onPart read write
  close session := (engine.close session).onPart read write
  consult thread source := (engine.consult thread source).onPart read write
  query thread source := (engine.query thread source).onPart read write
  answer thread := (engine.answer thread).onPart read write
  remaining thread state := engine.remaining thread (read state)

end Engine

end WorkspacePolicy
