/-
# Proofs.Engine.Watched — an engine with the calls that it gets

Watching an engine writes down each of its calls and changes nothing else (`logged_result`). So a
watched engine may do what any engine does: refuse, throw, fail or repeat itself, and a property
of the calls of a watched engine is one of every engine.

Of the calls only those count here that create or close a session or add a thread to one. The
work on a thread adds none of them (`Watched.SameSessions`).
-/
import WorkspacePolicy.Policy.Basic
import WorkspacePolicy.Proofs.Session.Steps

namespace WorkspacePolicy

set_option autoImplicit false

/-- A call of an engine. The creation of a session goes with its number if there is one. -/
inductive Call where
  | setup
  | createSession (created : Option Nat)
  | createThread (session : Nat)
  | close (session : Nat)
  | consult (thread : Nat) (source : String)
  | query (thread : Nat) (source : String)
  | answer (thread : Nat)

namespace Call

def created? : Call → Option Nat
  | .createSession created => created
  | _ => none

def closed? : Call → Option Nat
  | .close session => some session
  | _ => none

def threaded? : Call → Option Nat
  | .createThread session => some session
  | _ => none

/-- The call creates and closes no session and adds no thread to one. -/
def IsQuiet (call : Call) : Prop :=
  call.created? = none ∧ call.closed? = none ∧ call.threaded? = none

end Call

/-- The state of an engine with the calls so far. -/
structure Watched (σ : Type) where
  state : σ
  calls : List Call

variable {σ α : Type}

namespace Watched

/-- The sessions that were created. -/
def created (s : Watched σ) : List Nat := s.calls.filterMap Call.created?

/-- The sessions that were closed, once for each call. -/
def closed (s : Watched σ) : List Nat := s.calls.filterMap Call.closed?

/-- The sessions that got a further thread, once for each thread. -/
def threaded (s : Watched σ) : List Nat := s.calls.filterMap Call.threaded?

end Watched

/-- An action whose call is written down. -/
def logged (call : Except Failure α → Call) (action : Action σ α) : Action (Watched σ) α :=
  ExceptT.mk fun s =>
    let (outcome, state) := action.result s.state
    (outcome, ⟨state, s.calls ++ [call outcome]⟩)

theorem logged_result (call : Except Failure α → Call) (action : Action σ α) (s : Watched σ) :
    (logged call action).result s = ((action.result s.state).1,
      ⟨(action.result s.state).2, s.calls ++ [call (action.result s.state).1]⟩) := rfl

/-- The number of a session that was created. -/
def Opening.created : Except Failure Opening → Option Nat
  | .ok opening => some opening.session
  | .error _ => none

/-- An engine whose calls are written down. -/
def Engine.watched (engine : Engine σ) : Engine (Watched σ) where
  name := engine.name
  supportLibrary := engine.supportLibrary
  setup := logged (fun _ => .setup) engine.setup
  createSession := logged (fun outcome => .createSession (Opening.created outcome))
    engine.createSession
  createThread session := logged (fun _ => .createThread session) (engine.createThread session)
  close session := logged (fun _ => .close session) (engine.close session)
  consult thread source :=
    logged (fun _ => .consult thread source) (engine.consult thread source)
  query thread source := logged (fun _ => .query thread source) (engine.query thread source)
  answer thread := logged (fun _ => .answer thread) (engine.answer thread)
  remaining thread s := engine.remaining thread s.state

def Thread.watched (t : Thread σ) : Thread (Watched σ) := ⟨t.engine.watched, t.number⟩

def Session.watched (session : Session σ) : Session (Watched σ) :=
  ⟨session.engine.watched, session.number, session.inEngine, session.main.watched⟩

/-- The rules of a project on an engine whose calls are written down. -/
def Policy.watched (policy : Policy σ) : Policy (Watched σ) :=
  ⟨policy.project, policy.rules, policy.engine.map Engine.watched⟩

/-- A world from which the calls are written down. -/
def World.watched (w : World σ) : World (Watched σ) := ⟨⟨w.backend, []⟩, w.closed⟩

/-! ## Calls that leave the sessions alone -/

/-- The same sessions were created and closed, and the same ones got threads. -/
structure Watched.SameSessions (s s' : Watched σ) : Prop where
  created : s'.created = s.created
  closed : s'.closed = s.closed
  threaded : s'.threaded = s.threaded

namespace Watched.SameSessions

theorem refl (s : Watched σ) : SameSessions s s := ⟨rfl, rfl, rfl⟩

theorem trans {s s' s'' : Watched σ} (first : SameSessions s s') (next : SameSessions s' s'') :
    SameSessions s s'' :=
  ⟨next.created.trans first.created, next.closed.trans first.closed,
    next.threaded.trans first.threaded⟩

theorem of_call {s s' : Watched σ} (call : Call) (quiet : call.IsQuiet)
    (calls : s'.calls = s.calls ++ [call]) : SameSessions s s' := by
  obtain ⟨noCreated, noClosed, noThreaded⟩ := quiet
  constructor
  · simp [Watched.created, calls, noCreated]
  · simp [Watched.closed, calls, noClosed]
  · simp [Watched.threaded, calls, noThreaded]

end Watched.SameSessions

variable {engine : Engine σ} {s : Watched σ}

theorem setup_sameSessions (engine : Engine σ) (s : Watched σ) :
    s.SameSessions (engine.watched.setup.result s).2 :=
  .of_call .setup ⟨rfl, rfl, rfl⟩ rfl

/-! ## Calls about sessions -/

theorem createSession_of_error {failure : Failure} {s' : Watched σ}
    (refused : engine.watched.createSession.result s = (.error failure, s')) :
    s.SameSessions s' := by
  obtain ⟨failed, rfl⟩ := Prod.mk.inj refused
  exact .of_call (.createSession none) ⟨rfl, rfl, rfl⟩ (by rw [failed]; rfl)

theorem createSession_of_ok {opening : Opening} {s' : Watched σ}
    (opened : engine.watched.createSession.result s = (.ok opening, s')) :
    s'.created = s.created ++ [opening.session] ∧ s'.closed = s.closed := by
  obtain ⟨given, rfl⟩ := Prod.mk.inj opened
  simp [Watched.created, Watched.closed, given, Opening.created, Call.created?, Call.closed?]

theorem close_watched (engine : Engine σ) (s : Watched σ) (session : Nat) :
    ((engine.watched.close session).result s).2.created = s.created ∧
      ((engine.watched.close session).result s).2.closed = s.closed ++ [session] := by
  simp [Engine.watched, logged_result, Watched.created, Watched.closed, Call.created?, Call.closed?]

theorem createThread_watched (engine : Engine σ) (s : Watched σ) (session : Nat) :
    ((engine.watched.createThread session).result s).2.created = s.created ∧
      ((engine.watched.createThread session).result s).2.closed = s.closed ∧
      ((engine.watched.createThread session).result s).2.threaded = s.threaded ++ [session] := by
  simp [Engine.watched, logged_result, Watched.created, Watched.closed, Watched.threaded,
    Call.created?, Call.closed?, Call.threaded?]

/-! ## Work on a thread -/

variable {t : Thread (Watched σ)}

theorem consult_sameSessions (on : t.engine = engine.watched) (source : String) :
    s.SameSessions ((t.consult source).result s).2 := by
  rw [Thread.consult_eq, on]
  exact .of_call (.consult t.number source) ⟨rfl, rfl, rfl⟩ rfl

theorem startQuery_sameSessions (on : t.engine = engine.watched) (source : String) :
    s.SameSessions ((t.startQuery source).result s).2 := by
  rw [Thread.startQuery_eq, on]
  exact .of_call (.query t.number source) ⟨rfl, rfl, rfl⟩ rfl

theorem nextAnswer_sameSessions (on : t.engine = engine.watched) :
    s.SameSessions (t.nextAnswer.result s).2 := by
  rw [Thread.nextAnswer_eq, on]
  exact .of_call (.answer t.number) ⟨rfl, rfl, rfl⟩ rfl

theorem consults_sameSessions (on : t.engine = engine.watched) (sources : List String) :
    s.SameSessions ((forM sources t.consult : Action (Watched σ) PUnit).result s).2 := by
  induction sources generalizing s with
  | nil => exact .refl s
  | cons source rest ih =>
      rw [List.forM_cons]
      exact Action.related_bind (fun first next => first.trans next)
        (consult_sameSessions on source) fun _ _ _ => ih

theorem AnswerSequence.next_sameSessions {q : AnswerSequence (Watched σ)}
    (on : ∀ t, q.thread? = some t → t.engine = engine.watched) :
    s.SameSessions (q.next.run s).2 := by
  have asked : ∀ {t : Thread (Watched σ)} {s : Watched σ}, t.engine = engine.watched →
      s.SameSessions ((ask t).run s).2 := by
    intro t s on
    rw [ask_run]
    exact nextAnswer_sameSessions on
  cases q with
  | fresh t query =>
      have started := startQuery_sameSessions (s := s) (on t rfl) query
      rw [next_fresh_eq]
      rcases taken : (t.startQuery query).result s with ⟨_ | _, s'⟩ <;> rw [taken] at started
      · exact started
      · exact started.trans (asked (on t rfl))
  | running t => exact asked (on t rfl)
  | finished => exact .refl s

end WorkspacePolicy
