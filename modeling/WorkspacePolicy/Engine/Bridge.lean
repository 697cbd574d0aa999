/-
# Engine.Bridge — an engine behind a bridge

The engine is another process, reached by goals of a bridge program that is loaded
once. Every session is a module there, and every query runs under an alias of its own.
A session, a thread and a query have numbers, and the name of each is made of its own
number and the name of what it belongs to.

A thread holds the alias of its current query. A new query closes the one before, and
an alias is let go when its answers have ended, when one of them was thrown, or when
the session is closed. Closing a session disposes of its module once.

The other side is represented by the replies that it will give. Once they have run
out, every goal fails.
-/
import WorkspacePolicy.Engine.Basic
import WorkspacePolicy.Entries
import WorkspacePolicy.Numbered

namespace WorkspacePolicy.Bridge

set_option autoImplicit false

/-- The name of the bridge program. -/
def programName : String := "constraints_bridge"

/-- The module of the session with the given index. -/
def moduleName (session : Nat) : String :=
  s!"constraints_session_{session + 1}"

/-- A query on the other side: its session, its thread and its number in the thread. -/
structure Alias where
  session : Nat
  thread : Nat
  query : Nat
  deriving DecidableEq, Repr

/-- The name of a query. -/
def Alias.text (a : Alias) : String :=
  s!"{moduleName a.session}_thread_{a.thread + 1}_q{a.query + 1}"

/-- A goal of the bridge. -/
inductive Goal where
  | consult (session : Nat) (source : String)
  | start (session : Nat) (query : Alias) (source : String)
  | next (query : Alias)
  | stop (query : Alias)
  | dispose (session : Nat)
  deriving DecidableEq, Repr

namespace Goal

/-- The goal with variables for its inputs and outputs. -/
def text : Goal → String
  | .consult .. => "bridge_consult(M, T, R)"
  | .start .. => "bridge_open(M, E, T, R)"
  | .next _ => "bridge_next(E, A)"
  | .stop _ => "bridge_close(E)"
  | .dispose _ => "bridge_dispose(M)"

/-- The values of the inputs, by name. -/
def inputs : Goal → List (String × String)
  | .consult session source => [("M", moduleName session), ("T", source)]
  | .start session query source =>
    [("E", query.text), ("M", moduleName session), ("T", source)]
  | .next query => [("E", query.text)]
  | .stop query => [("E", query.text)]
  | .dispose session => [("M", moduleName session)]

end Goal

/-- What reaches the other side. -/
inductive Event where
  | load
  | call (goal : Goal)
  deriving DecidableEq, Repr

/-- A thread: its session, how many queries it has tried to start, and its current query. -/
structure ThreadState where
  session : Nat
  started : Nat
  current : Option Alias

/-- A session: its threads in order of creation, and whether it has been closed. -/
structure SessionState where
  threads : List Nat
  closed : Bool

/-- The state of the engine. -/
structure State where
  /-- The replies that the other side will give. -/
  replies : List Reply
  /-- The bridge program has been loaded. -/
  loaded : Bool
  sessions : Numbered SessionState
  threads : Numbered ThreadState
  /-- What has reached the other side, in order. -/
  trace : List Event
  /-- What was reported about directives that failed, in order. -/
  warnings : List String

namespace State

/-- The state before the first session. -/
def initial (replies : List Reply) : State where
  replies := replies
  loaded := false
  sessions := .empty ⟨[], false⟩
  threads := .empty ⟨0, 0, none⟩
  trace := []
  warnings := []

/-- Changes a thread. -/
def setThread (s : State) (n : Nat) (thread : ThreadState) : State :=
  { s with threads := s.threads.set n thread }

/-- Changes a session. -/
def setSession (s : State) (n : Nat) (session : SessionState) : State :=
  { s with sessions := s.sessions.set n session }

end State

/-- Ends with a fault unless there is a value. -/
def orFail {α : Type} : Except Fault α → Action State α
  | .ok value => pure value
  | .error fault => throw (.bridge fault)

/-- The next reply of the other side; a goal fails when there is none. -/
def nextReply : Action State Reply := do
  let s ← get
  match s.replies with
  | [] => return ⟨false, []⟩
  | reply :: rest =>
    set { s with replies := rest }
    return reply

/-- Calls a goal, which has to be true. -/
def call (goal : Goal) : Action State Reply := do
  modify fun s => { s with trace := s.trace ++ [Event.call goal] }
  let reply ← nextReply
  if reply.succeeded then return reply else throw (.bridge (.goalFailed goal.text))

/-- Calls a goal and gives one of its outputs. -/
def callFor (goal : Goal) (output : String) : Action State Json := do
  let reply ← call goal
  match Entries.find? output reply.outputs with
  | some value => return value
  | none => throw (.bridge (.unbound output))

/-- Loads the bridge program unless it has been loaded. -/
def setup : Action State Unit := do
  let s ← get
  unless s.loaded do
    set { s with loaded := true, trace := s.trace ++ [Event.load] }

/-- Adds a thread to a session. -/
def createThread (session : Nat) : Action State Nat := do
  let s ← get
  let entry := s.sessions.get session
  set { s with
    threads := s.threads.add ⟨session, 0, none⟩
    sessions := s.sessions.set session { entry with threads := entry.threads ++ [s.threads.size] } }
  return s.threads.size

def createSession : Action State Opening := do
  let s ← get
  set { s with sessions := s.sessions.add ⟨[], false⟩ }
  let main ← createThread s.sessions.size
  return ⟨s.sessions.size, main⟩

def consult (thread : Nat) (source : String) : Action State (Delivery Acknowledgement) := do
  let session := ((← get).threads.get thread).session
  let outcome ← callFor (.consult session source) "R"
  if ← orFail (hasTag "throw" outcome) then
    return { first := .refused (← orFail (item outcome 1 >>= decode)) }
  else
    let failed ← orFail (item outcome 1 >>= texts)
    let reports := failed.map fun directive =>
      s!"Directive failed in {moduleName session}: {directive}"
    modify fun s => { s with warnings := s.warnings ++ reports }
    return { first := .accepted }

/-- Ends the current query of a thread, if there is one. -/
def stopCurrent (thread : Nat) : Action State Unit := do
  match ((← get).threads.get thread).current with
  | none => return ()
  | some query =>
    let _ ← call (.stop query)
    modify fun s => s.setThread thread { s.threads.get thread with current := none }

def query (thread : Nat) (source : String) : Action State (Delivery Acknowledgement) := do
  stopCurrent thread
  let entry := (← get).threads.get thread
  let name : Alias := ⟨entry.session, thread, entry.started⟩
  modify fun s => s.setThread thread { entry with started := entry.started + 1 }
  let outcome ← callFor (.start entry.session name source) "R"
  if ← orFail (hasTag "throw" outcome) then
    return { first := .refused (← orFail (item outcome 1 >>= decode)) }
  else
    modify fun s => s.setThread thread { s.threads.get thread with current := some name }
    return { first := .accepted }

def answer (thread : Nat) : Action State (Delivery (Option Answer)) := do
  match ((← get).threads.get thread).current with
  | none => return { first := none }
  | some query =>
    let outcome ← callFor (.next query) "A"
    if ← orFail (hasTag "done" outcome) then
      modify fun s => s.setThread thread { s.threads.get thread with current := none }
      return { first := none }
    else if ← orFail (hasTag "throw" outcome) then
      stopCurrent thread
      return { first := some (.thrown (← orFail (item outcome 1 >>= decode))) }
    else
      let links ← orFail (item outcome 1 >>= decodeBindings)
      return { first := some (.bindings (Entries.ofList links)) }

/-- Ends the current queries of threads, in order. -/
def stopAll : List Nat → Action State Unit
  | [] => pure ()
  | thread :: rest => do
    stopCurrent thread
    stopAll rest

/-- Closes a session unless it has been closed: it counts as closed at once, then its
queries are ended, and last its module is disposed of. -/
def close (session : Nat) : Action State Unit := do
  let entry := (← get).sessions.get session
  unless entry.closed do
    modify fun s => s.setSession session { entry with closed := true }
    stopAll entry.threads
    modify fun s => s.setSession session ⟨[], true⟩
    let _ ← call (.dispose session)

/-- The engine behind the bridge. -/
def engine : Engine State where
  name := "swi"
  supportLibrary := Engine.defaultSupportLibrary
  setup := setup
  createSession := createSession
  createThread := createThread
  close := close
  consult := consult
  query := query
  answer := answer
  remaining _ s := s.replies.length

end WorkspacePolicy.Bridge
