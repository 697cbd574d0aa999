/-
# Session.Basic — sessions and whether they are closed

A session is a program in an engine with a main thread. It is initialised once, from
linkage, support library and source in this order, and the first text that is refused
closes it. Closing a session a second time does nothing, and a closed session gives no
further threads.

The world holds the state of the engines and remembers which sessions are closed.
-/
import WorkspacePolicy.Numbered
import WorkspacePolicy.Session.Thread

namespace WorkspacePolicy

set_option autoImplicit false

/-- The state of the engines, and for every session whether it is closed. -/
structure World (σ : Type) where
  backend : σ
  closed : Numbered Bool

namespace World

variable {σ α : Type}

/-- The world before the first session. -/
def initial (backend : σ) : World σ := ⟨backend, .empty false⟩

/-- An action of an engine in the world. -/
def onBackend (action : Action σ α) : Action (World σ) α :=
  action.onPart World.backend fun backend world => { world with backend := backend }

end World

/-- A session: its number in the world and in its engine, and its main thread. -/
structure Session (σ : Type) where
  engine : Engine σ
  number : Nat
  inEngine : Nat
  main : Thread σ

namespace Session

variable {σ α : Type}

/-- A new session of an engine. -/
def start (engine : Engine σ) : Action (World σ) (Session σ) := do
  World.onBackend engine.setup
  let opening ← World.onBackend engine.createSession
  let world ← get
  set { world with closed := world.closed.add false }
  return ⟨engine, world.closed.size, opening.session, ⟨engine, opening.main⟩⟩

/-- The session is closed. -/
def isClosed (s : Session σ) (world : World σ) : Bool :=
  world.closed.get s.number

/-- Closes the session unless it is closed. It counts as closed before its engine is told. -/
def close (s : Session σ) : Action (World σ) Unit := do
  let world ← get
  unless s.isClosed world do
    set { world with closed := world.closed.set s.number true }
    World.onBackend (s.engine.close s.inEngine)

/-- A further thread of the session. -/
def createThread (s : Session σ) : Action (World σ) (Thread σ) := do
  if s.isClosed (← get) then throw .sessionClosed
  return ⟨s.engine, ← World.onBackend (s.engine.createThread s.inEngine)⟩

/-- Consults the three texts of a session. -/
def consultAll (s : Session σ) (linkage source : String) : Action σ Unit := do
  s.main.consult linkage
  s.main.consult s.engine.supportLibrary
  s.main.consult source

/-- Initialises the session; a failure closes it. -/
def init (s : Session σ) (linkage source : String) : Action (World σ) Unit :=
  (World.onBackend (s.consultAll linkage source)).onFailure s.close

end Session

end WorkspacePolicy
