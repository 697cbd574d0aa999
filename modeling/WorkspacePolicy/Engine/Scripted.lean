/-
# Engine.Scripted — an engine that plays a script

A script says how every consult and every query is taken and which answers a query has.
What it does not mention is accepted and has no answers. Every thread keeps its own
pending answers, and a query that is taken replaces them; a query that the script takes
in its own way leaves them as they were.

The engine records every call, so that a run can be compared with what was expected of
it. It goes on after a session has been closed.
-/
import WorkspacePolicy.Engine.Basic
import WorkspacePolicy.Numbered

namespace WorkspacePolicy

set_option autoImplicit false

/-- What an engine is to do. -/
structure Script where
  supportLibrary : String := Engine.defaultSupportLibrary
  /-- How the consult with a number is taken; consults count from zero over all threads. -/
  consults : List (Nat × Delivery Acknowledgement) := []
  /-- How a query is taken; the first entry for a text counts. -/
  queries : List (String × Delivery Acknowledgement) := []
  /-- The answers of a query; the last entry for a text counts. -/
  answers : List (String × List (Delivery (Option Answer))) := []

namespace Script

/-- A call that is answered by success. -/
def accepted : Delivery Acknowledgement := { first := .accepted }

/-- How the consult with a number is taken. -/
def consultAt (script : Script) (n : Nat) : Delivery Acknowledgement :=
  match script.consults.find? (·.1 == n) with
  | some entry => entry.2
  | none => accepted

/-- How the script takes a query, if it says so. -/
def queryFor? (script : Script) (source : String) : Option (Delivery Acknowledgement) :=
  (script.queries.find? (·.1 == source)).map (·.2)

/-- The answers of a query. -/
def answersFor (script : Script) (source : String) : List (Delivery (Option Answer)) :=
  match script.answers.findRev? (·.1 == source) with
  | some entry => entry.2
  | none => []

end Script

namespace Scripted

/-- A call of the engine. -/
inductive Event where
  | setup
  | createSession
  | createThread
  | close
  | consult (thread : Nat) (source : String)
  | query (thread : Nat) (source : String)
  | answer (thread : Nat)
  deriving DecidableEq, Repr

/-- The state of the engine. -/
structure State where
  sessions : Nat
  /-- How many consults there were. -/
  consulted : Nat
  /-- The answers that each thread still has to give. -/
  pending : Numbered (List (Delivery (Option Answer)))
  /-- The calls so far, in order. -/
  trace : List Event

namespace State

def initial : State := ⟨0, 0, .empty [], []⟩

def record (s : State) (event : Event) : State :=
  { s with trace := s.trace ++ [event] }

end State

/-- Records a call. -/
def record (event : Event) : Action State Unit :=
  modify (·.record event)

def createSession : Action State Opening := do
  record .createSession
  let s ← get
  set { s with sessions := s.sessions + 1, pending := s.pending.add [] }
  return ⟨s.sessions, s.pending.size⟩

def createThread : Action State Nat := do
  record .createThread
  let s ← get
  set { s with pending := s.pending.add [] }
  return s.pending.size

def consult (script : Script) (thread : Nat) (source : String) :
    Action State (Delivery Acknowledgement) := do
  record (.consult thread source)
  let s ← get
  set { s with consulted := s.consulted + 1 }
  return script.consultAt s.consulted

def query (script : Script) (thread : Nat) (source : String) :
    Action State (Delivery Acknowledgement) := do
  record (.query thread source)
  match script.queryFor? source with
  | some delivery => return delivery
  | none =>
    modify fun s => { s with pending := s.pending.set thread (script.answersFor source) }
    return Script.accepted

def answer (thread : Nat) : Action State (Delivery (Option Answer)) := do
  record (.answer thread)
  let s ← get
  match s.pending.get thread with
  | [] => return { first := none }
  | next :: rest =>
    set { s with pending := s.pending.set thread rest }
    return next

/-- The engine that plays a script. -/
def engine (script : Script) : Engine State where
  name := "scripted"
  supportLibrary := script.supportLibrary
  setup := record .setup
  createSession := createSession
  createThread _ := createThread
  close _ := record .close
  consult := consult script
  query := query script
  answer := answer
  remaining thread s := (s.pending.get thread).length

end Scripted

end WorkspacePolicy
