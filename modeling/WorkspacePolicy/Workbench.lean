/-
# Workbench — sessions, threads and sequences side by side

A workbench numbers the sessions, threads and sequences that it makes, each kind from
zero. A move works on one of them or makes a new one; a move that fails makes nothing.
The main thread of a session is numbered with the session.

A run of moves shows in which ways sessions, threads and sequences can be used at the
same time.
-/
import WorkspacePolicy.Policy.Evaluation
import WorkspacePolicy.Policy.RowSequence

namespace WorkspacePolicy

set_option autoImplicit false

/-- A sequence of answers or of rows. -/
inductive AnySequence (σ : Type) where
  | answers (sequence : AnswerSequence σ)
  | rows (sequence : RowSequence σ)

/-- A world with numbered sessions, threads and sequences. -/
structure Workbench (σ : Type) where
  world : World σ
  sessions : List (Session σ)
  threads : List (Thread σ)
  sequences : Numbered (AnySequence σ)

/-- One use of a workbench. -/
inductive Move (σ : Type) where
  | start (engine : Except Registry.Unknown (Engine σ))
  | init (session : Nat) (linkage source : String)
  | createThread (session : Nat)
  | close (session : Nat)
  /-- Tells the engine to close a session without closing it here. -/
  | closeInEngine (session : Nat)
  | isClosed (session : Nat)
  | consult (thread : Nat) (source : String)
  | startQuery (thread : Nat) (source : String)
  | makeQuery (thread : Nat) (query : String)
  | next (sequence : Nat)
  | abandon (sequence : Nat)
  | drain (sequence : Nat)
  | createSession (policy : Policy σ)
  | query (policy : Policy σ) (query : String) (context : QueryText.Context)
      (session : Option Nat)
  | evaluate (policy : Policy σ)

/-- What a move gives. -/
inductive Outcome where
  | nothing
  | number (n : Nat)
  | flag (value : Bool)
  | bindings (links : Bindings)
  | row (row : Row)
  | finished
  | answers (drained : Drained Bindings)
  | rows (drained : Drained Row)
  | conclusions (conclusions : Conclusions)

namespace Workbench

variable {σ α : Type}

/-- The workbench before the first move. -/
def initial (backend : σ) : Workbench σ :=
  ⟨.initial backend, [], [], .empty (.answers .finished)⟩

/-- An action on the world. -/
def onWorld (action : Action (World σ) α) : Action (Workbench σ) α :=
  action.onPart Workbench.world fun world bench => { bench with world := world }

/-- An action on the engines. -/
def onBackend (action : Action σ α) : Action (Workbench σ) α :=
  onWorld (World.onBackend action)

/-- The session with a number. -/
def sessionAt (n : Nat) : Action (Workbench σ) (Session σ) := do
  match (← get).sessions[n]? with
  | some session => return session
  | none => throw .unknownNumber

/-- The thread with a number. -/
def threadAt (n : Nat) : Action (Workbench σ) (Thread σ) := do
  match (← get).threads[n]? with
  | some thread => return thread
  | none => throw .unknownNumber

/-- Numbers a session and its main thread. -/
def addSession (session : Session σ) : Action (Workbench σ) Outcome := do
  let bench ← get
  set { bench with
    sessions := bench.sessions ++ [session]
    threads := bench.threads ++ [session.main] }
  return .number bench.sessions.length

/-- Numbers a thread. -/
def addThread (thread : Thread σ) : Action (Workbench σ) Outcome := do
  let bench ← get
  set { bench with threads := bench.threads ++ [thread] }
  return .number bench.threads.length

/-- Numbers a sequence. -/
def addSequence (sequence : AnySequence σ) : Action (Workbench σ) Outcome := do
  let bench ← get
  set { bench with sequences := bench.sequences.add sequence }
  return .number bench.sequences.size

/-- Puts the state of a sequence back. -/
def setSequence (n : Nat) (sequence : AnySequence σ) : Action (Workbench σ) Unit :=
  modify fun bench => { bench with sequences := bench.sequences.set n sequence }

/-- A step of a sequence of answers. -/
def stepAnswers (sequence : AnswerSequence σ) :
    Action (Workbench σ) (Pull Bindings × AnswerSequence σ) :=
  onBackend (ExceptT.lift sequence.next)

/-- A step of a sequence of rows. -/
def stepRows (sequence : RowSequence σ) :
    Action (Workbench σ) (Pull Row × RowSequence σ) :=
  onWorld (ExceptT.lift sequence.next)

/-- The outcome of a step. -/
def ofPull (item : α → Outcome) : Pull α → Action (Workbench σ) Outcome
  | .item value => return item value
  | .done => return .finished
  | .failed failure => throw failure

/-- One step of a sequence. -/
def next (n : Nat) : Action (Workbench σ) Outcome := do
  match (← get).sequences.get n with
  | .answers sequence =>
    let (pull, sequence) ← stepAnswers sequence
    setSequence n (.answers sequence)
    ofPull .bindings pull
  | .rows sequence =>
    let (pull, sequence) ← stepRows sequence
    setSequence n (.rows sequence)
    ofPull .row pull

/-- Gives a sequence up. -/
def abandon (n : Nat) : Action (Workbench σ) Outcome := do
  match (← get).sequences.get n with
  | .answers sequence =>
    setSequence n (.answers sequence.abandon)
    return .nothing
  | .rows sequence =>
    setSequence n (.rows .finished)
    onWorld sequence.abandon
    return .nothing

/-- Takes all items of a sequence. -/
def drain (n : Nat) : Action (Workbench σ) Outcome := do
  match (← get).sequences.get n with
  | .answers sequence =>
    let (drained, sequence) ← onBackend (ExceptT.lift sequence.drain)
    setSequence n (.answers sequence)
    return .answers drained
  | .rows sequence =>
    let (drained, sequence) ← onWorld (ExceptT.lift sequence.drain)
    setSequence n (.rows sequence)
    return .rows drained

/-- The session that a sequence is to use, if one is given. -/
def sessionFor : Option Nat → Action (Workbench σ) (Option (Session σ))
  | none => return none
  | some n => return some (← sessionAt n)

/-- Makes one move. -/
def perform : Move σ → Action (Workbench σ) Outcome
  | .start (.error fault) => throw (.unknownEngine fault)
  | .start (.ok engine) => do
    addSession (← onWorld (Session.start engine))
  | .init n linkage source => do
    onWorld ((← sessionAt n).init linkage source)
    return .nothing
  | .createThread n => do
    addThread (← onWorld (← sessionAt n).createThread)
  | .close n => do
    let session ← sessionAt n
    onWorld session.close
    return .flag (session.isClosed (← get).world)
  | .closeInEngine n => do
    let session ← sessionAt n
    onBackend (session.engine.close session.inEngine)
    return .nothing
  | .isClosed n => do
    return .flag ((← sessionAt n).isClosed (← get).world)
  | .consult n source => do
    onBackend ((← threadAt n).consult source)
    return .nothing
  | .startQuery n source => do
    onBackend ((← threadAt n).startQuery source)
    return .nothing
  | .makeQuery n query => do
    addSequence (.answers (.fresh (← threadAt n) query))
  | .next n => next n
  | .abandon n => abandon n
  | .drain n => drain n
  | .createSession policy => do
    addSession (← onWorld policy.createSession)
  | .query policy query context session => do
    addSequence (.rows (.ofQuery policy query context (← sessionFor session)))
  | .evaluate policy => do
    return .conclusions (← onWorld policy.evaluate)

end Workbench

end WorkspacePolicy
