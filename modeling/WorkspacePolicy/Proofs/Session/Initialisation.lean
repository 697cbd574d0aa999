/-
# Proofs.Session.Initialisation — a session is initialised up to the first text that is refused

Linkage, support library and source of a session are consulted on its main thread, one after
another (`Thread.Accepts`). The first text that is refused is the last one: it closes the session,
and its error is that of the initialisation (`init_of_refused`). Only the first call of a callback
counts. An engine that fails to close the session puts its own failure in the place of that error
(`not_raisesRefusal_undisposed`).

A session that has been closed stays closed, whatever is done with it and its threads: it is not
closed again and gets no further thread (`stays_closed`). All of this holds on any engine, of which
the calls are written down.
-/
import WorkspacePolicy.Engine.Bridge
import WorkspacePolicy.Proofs.Session.Owned

namespace WorkspacePolicy

set_option autoImplicit false

variable {σ : Type}

/-! ## Texts one after another -/

namespace Thread

/-- The texts are consulted one after another, and the engine accepts each of them. -/
inductive Accepts (t : Thread σ) : List String → σ → σ → Prop
  | nil (s : σ) : Accepts t [] s s
  | cons {source : String} {sources : List String} {delivery : Delivery Acknowledgement}
      {s s₁ s₂ : σ} (taken : (t.engine.consult t.number source).result s = (.ok delivery, s₁))
      (accepted : delivery.first = .accepted) (later : Accepts t sources s₁ s₂) :
      Accepts t (source :: sources) s s₂

/-- The text is consulted, and the engine refuses it with a term. -/
def Refuses (t : Thread σ) (source : String) (s : σ) (term : Term) (s' : σ) : Prop :=
  ∃ delivery, (t.engine.consult t.number source).result s = (.ok delivery, s') ∧
    delivery.first = .refused term

/-- The engine calls back for every text that is consulted on the thread, in any way. -/
def HearsBack (t : Thread σ) : Prop :=
  ∀ source s, ∃ delivery s', (t.engine.consult t.number source).result s = (.ok delivery, s')

variable {t : Thread σ} {sources earlier later : List String} {source : String} {term : Term}
  {s s₁ s₂ : σ}

theorem consults_of_accepts (accepts : t.Accepts sources s s₁) :
    (forM sources t.consult : Action σ PUnit).result s = (.ok ⟨⟩, s₁) := by
  induction accepts with
  | nil s => rfl
  | cons taken accepted _ ih =>
      have consulted := consult_eq (t := t) _ |>.trans (by rw [taken])
      rw [List.forM_cons, Action.result_bind, consulted]
      simp only [Except.bind, accepted, settled]
      exact ih

theorem consults_of_refuses (accepts : t.Accepts earlier s s₁)
    (refuses : t.Refuses source s₁ term s₂) (later : List String) :
    (forM (earlier ++ source :: later) t.consult : Action σ PUnit).result s =
      (.error (.logic (LogicError.ofTerm term)), s₂) := by
  induction accepts with
  | nil s =>
      obtain ⟨delivery, taken, refused⟩ := refuses
      rw [List.nil_append, List.forM_cons, Action.result_bind, consult_eq, taken]
      simp only [Except.bind, refused, settled]
  | cons taken accepted _ ih =>
      rw [List.cons_append, List.forM_cons, Action.result_bind, consult_eq, taken]
      simp only [Except.bind, accepted, settled]
      exact ih refuses

/-- Where the engine calls back, all texts are accepted or there is a first one that is refused. -/
theorem accepts_or_refuses (hears : t.HearsBack) (sources : List String) (s : σ) :
    (∃ s', t.Accepts sources s s') ∨ ∃ earlier source later s₁ term s₂,
      sources = earlier ++ source :: later ∧ t.Accepts earlier s s₁ ∧
        t.Refuses source s₁ term s₂ := by
  induction sources generalizing s with
  | nil => exact .inl ⟨s, .nil s⟩
  | cons source rest ih =>
      obtain ⟨delivery, s', taken⟩ := hears source s
      cases first : delivery.first with
      | refused term =>
          exact .inr ⟨[], source, rest, s, term, s', rfl, .nil s, delivery, taken, first⟩
      | accepted =>
          rcases ih s' with ⟨last, accepts⟩ | ⟨earlier, bad, later, s₁, term, s₂, rfl, accepts, no⟩
          · exact .inl ⟨last, .cons taken first accepts⟩
          · exact .inr ⟨source :: earlier, bad, later, s₁, term, s₂, rfl,
              .cons taken first accepts, no⟩

end Thread

/-- Texts that a watched engine accepts are written down one after another. -/
theorem calls_of_accepts {engine : Engine σ} {t : Thread (Watched σ)} (on : t.engine = engine.watched)
    {sources : List String} {s s' : Watched σ} (accepts : t.Accepts sources s s') :
    s'.calls = s.calls ++ sources.map (.consult t.number) := by
  induction accepts with
  | nil s => simp
  | @cons source sources delivery s s₁ s₂ taken _ _ ih =>
      rw [on] at taken
      obtain ⟨-, rfl⟩ := Prod.mk.inj taken
      rw [ih, List.map_cons, List.append_assoc]
      rfl

theorem calls_of_refuses {engine : Engine σ} {t : Thread (Watched σ)}
    (on : t.engine = engine.watched) {source : String} {term : Term} {s s' : Watched σ}
    (refuses : t.Refuses source s term s') : s'.calls = s.calls ++ [.consult t.number source] := by
  obtain ⟨delivery, taken, -⟩ := refuses
  rw [on] at taken
  obtain ⟨-, rfl⟩ := Prod.mk.inj taken
  rfl

namespace Session

/-! ## What is done with a session later -/

/-- A use of a session, or of a thread of its engine. -/
inductive Use where
  | init (linkage source : String)
  | createThread
  | close
  | consult (thread : Nat) (source : String)
  | query (thread : Nat) (source : String)
  | answer (thread : Nat)

/-- The world after a use, which may fail. -/
def after (session : Session σ) (w : World σ) : Use → World σ
  | .init linkage source => ((session.init linkage source).result w).2
  | .createThread => (session.createThread.result w).2
  | .close => (session.close.result w).2
  | .consult n source =>
    ((World.onBackend (Thread.consult ⟨session.engine, n⟩ source)).result w).2
  | .query n source =>
    ((World.onBackend (Thread.startQuery ⟨session.engine, n⟩ source)).result w).2
  | .answer n => ((World.onBackend (Thread.nextAnswer ⟨session.engine, n⟩)).result w).2

/-- The world after some uses. -/
def afterAll (session : Session σ) (w : World σ) (uses : List Use) : World σ :=
  uses.foldl session.after w

/-- Whatever is done with the session and its threads, it stays closed: it gets no further thread,
closing it again reaches nobody, and its engine is not told to close anything. -/
structure StaysClosed (session : Session (Watched σ)) (w : World (Watched σ)) : Prop where
  isClosed : ∀ uses, session.isClosed (session.afterAll w uses) = true
  createThread : ∀ uses, session.createThread.result (session.afterAll w uses) =
    (.error .sessionClosed, session.afterAll w uses)
  close : ∀ uses, session.close.result (session.afterAll w uses) =
    (.ok (), session.afterAll w uses)
  untold : ∀ uses, (session.afterAll w uses).backend.closed = w.backend.closed

variable {engine : Engine σ} {session : Session (Watched σ)} {w : World (Watched σ)}

theorem close_of_isClosed {session : Session σ} {w : World σ} (closed : session.isClosed w = true) :
    session.close.result w = (.ok (), w) := by
  rw [close_eq, if_pos closed]

/-- A closed session that is initialised once more has its texts consulted, and that is all. -/
theorem init_of_isClosed {session : Session σ} {w : World σ} (closed : session.isClosed w = true)
    (linkage source : String) : ((session.init linkage source).result w).2 =
      { w with backend := ((session.consultAll linkage source).result w.backend).2 } := by
  rw [init, Action.result_onFailure, World.result_onBackend]
  rcases (session.consultAll linkage source).result w.backend with ⟨failure | _, s⟩
  · have closes : session.close.result { w with backend := s } = (.ok (), { w with backend := s }) :=
      close_of_isClosed closed
    simp only [closes]
  · rfl

/-- A use of a closed session tells the engine to close nothing and leaves the session closed. -/
theorem after_of_isClosed (onEngine : session.engine = engine.watched)
    (onMain : session.main.engine = engine.watched) (closed : session.isClosed w = true)
    (use : Use) : session.isClosed (session.after w use) = true ∧
      (session.after w use).backend.closed = w.backend.closed := by
  cases use with
  | init linkage source =>
      have consulted := consults_sameSessions (s := w.backend) onMain
        [linkage, session.engine.supportLibrary, source]
      rw [← consultAll_eq_forM] at consulted
      rw [after, init_of_isClosed closed]
      exact ⟨closed, consulted.closed⟩
  | createThread =>
      rw [after, createThread_eq, if_pos closed]
      exact ⟨closed, rfl⟩
  | close =>
      rw [after, close_of_isClosed closed]
      exact ⟨closed, rfl⟩
  | consult n source =>
      exact ⟨closed, (consult_sameSessions (t := ⟨session.engine, n⟩) onEngine source).closed⟩
  | query n source =>
      exact ⟨closed, (startQuery_sameSessions (t := ⟨session.engine, n⟩) onEngine source).closed⟩
  | answer n =>
      exact ⟨closed, (nextAnswer_sameSessions (t := ⟨session.engine, n⟩) onEngine).closed⟩

/-- **A closed session stays closed**, by induction on what is done with it. -/
theorem stays_closed (onEngine : session.engine = engine.watched)
    (onMain : session.main.engine = engine.watched) (closed : session.isClosed w = true) :
    StaysClosed session w := by
  have kept : ∀ uses : List Use, ∀ w : World (Watched σ), session.isClosed w = true →
      session.isClosed (session.afterAll w uses) = true ∧
        (session.afterAll w uses).backend.closed = w.backend.closed := by
    intro uses
    induction uses with
    | nil => exact fun w closed => ⟨closed, rfl⟩
    | cons use uses ih =>
        intro w closed
        obtain ⟨still, untold⟩ := after_of_isClosed onEngine onMain closed use
        obtain ⟨last, untoldAfter⟩ := ih _ still
        exact ⟨last, untoldAfter.trans untold⟩
  refine ⟨fun uses => (kept uses w closed).1, fun uses => ?_, fun uses => ?_,
    fun uses => (kept uses w closed).2⟩
  · rw [createThread_eq, if_pos (kept uses w closed).1]
  · exact close_of_isClosed (kept uses w closed).1

/-! ## The initialisation -/

/-- The three texts of a session, in their order. -/
def texts (session : Session σ) (linkage source : String) : List String :=
  [linkage, session.engine.supportLibrary, source]

theorem init_of_accepts {session : Session σ} {w : World σ} {linkage source : String} {s : σ}
    (accepts : session.main.Accepts (session.texts linkage source) w.backend s) :
    (session.init linkage source).result w = (.ok (), { w with backend := s }) := by
  rw [init, Action.result_onFailure, World.result_onBackend, consultAll_eq_forM]
  have consulted := Thread.consults_of_accepts accepts
  rw [texts] at consulted
  rw [consulted]

/-- The first text that is refused closes the session; its error is the outcome, unless the engine
fails to close. -/
theorem init_of_refused {session : Session σ} {w : World σ} {linkage source text : String}
    {earlier later : List String} {term : Term} {s₁ s₂ : σ}
    (split : session.texts linkage source = earlier ++ text :: later)
    (accepts : session.main.Accepts earlier w.backend s₁)
    (refuses : session.main.Refuses text s₁ term s₂) (isOpen : session.isClosed w = false) :
    (session.init linkage source).result w =
      let closes := (session.engine.close session.inEngine).result s₂
      (match closes.1 with
        | .ok () => .error (.logic (LogicError.ofTerm term))
        | .error failure => .error failure, ⟨closes.2, w.closed.set session.number true⟩) := by
  have consulted := Thread.consults_of_refuses accepts refuses later
  have stillOpen : session.isClosed { w with backend := s₂ } = false := isOpen
  rw [← split, texts] at consulted
  rw [init, Action.result_onFailure, World.result_onBackend, consultAll_eq_forM, consulted]
  simp only [close_eq, stillOpen, Bool.false_eq_true, if_false]
  rcases (session.engine.close session.inEngine).result s₂ with ⟨_ | _, _⟩ <;> rfl

/-- How a session is initialised on an engine whose calls are written down. -/
structure InitialisesUpTo (session : Session (Watched σ)) (linkage source : String)
    (w : World (Watched σ)) : Prop where
  /-- Either all texts are accepted, or there is a first one that is refused. -/
  course : (∃ s, session.main.Accepts (session.texts linkage source) w.backend s) ∨
    ∃ earlier text later s₁ term s₂, session.texts linkage source = earlier ++ text :: later ∧
      session.main.Accepts earlier w.backend s₁ ∧ session.main.Refuses text s₁ term s₂
  /-- Where all are accepted, they were consulted in their order, and the session is open. -/
  accepted : ∀ s, session.main.Accepts (session.texts linkage source) w.backend s →
    (session.init linkage source).result w = (.ok (), { w with backend := s }) ∧
      s.calls = w.backend.calls ++
        (session.texts linkage source).map (.consult session.main.number) ∧
      session.isClosed { w with backend := s } = false
  /-- The first text that is refused is the last one that is consulted. Then the session is closed,
  once and for all, and the outcome is the error of that text. Only an engine that fails to close
  puts its own failure in the place of the error. -/
  refused : ∀ earlier text later s₁ term s₂,
    session.texts linkage source = earlier ++ text :: later →
    session.main.Accepts earlier w.backend s₁ → session.main.Refuses text s₁ term s₂ →
    let given := (session.init linkage source).result w
    let closes := ((session.engine.close session.inEngine).result s₂).1
    (closes = .ok () → given.1 = .error (.logic (LogicError.ofTerm term))) ∧
      (∀ failure, closes = .error failure → given.1 = .error failure) ∧
      given.2.backend.calls = w.backend.calls ++
        (earlier ++ [text]).map (.consult session.main.number) ++ [.close session.inEngine] ∧
      StaysClosed session given.2

theorem refused_watched (onEngine : session.engine = engine.watched)
    (onMain : session.main.engine = engine.watched) (isOpen : session.isClosed w = false)
    {linkage source text : String} {earlier later : List String} {term : Term} {s₁ s₂ : Watched σ}
    (split : session.texts linkage source = earlier ++ text :: later)
    (accepts : session.main.Accepts earlier w.backend s₁)
    (refuses : session.main.Refuses text s₁ term s₂) :
    ((session.init linkage source).result w).2.backend.calls = w.backend.calls ++
        (earlier ++ [text]).map (.consult session.main.number) ++ [.close session.inEngine] ∧
      StaysClosed session ((session.init linkage source).result w).2 := by
  rw [init_of_refused split accepts refuses isOpen]
  constructor
  · have consulted := calls_of_refuses onMain refuses
    rw [calls_of_accepts onMain accepts] at consulted
    show ((session.engine.close session.inEngine).result s₂).2.calls = _
    rw [onEngine, Engine.watched, logged_result, consulted]
    simp
  · exact stays_closed onEngine onMain (Numbered.get_set_self w.closed session.number true)

/-- **A session is initialised up to the first text that is refused, which closes it**, on any
engine that calls back for its texts, in whatever way it does. -/
theorem init_initialisesUpTo (session : Session σ) (onMain : session.main.engine = session.engine)
    (hears : session.main.HearsBack) (w : World σ) (isOpen : session.isClosed w = false)
    (linkage source : String) : InitialisesUpTo session.watched linkage source w.watched where
  course := by
    refine Thread.accepts_or_refuses (fun text s => ?_) _ _
    obtain ⟨delivery, s', taken⟩ := hears text s.state
    have logs := logged_result (fun _ => .consult session.main.number text)
      (session.main.engine.consult session.main.number text) s
    rw [taken] at logs
    exact ⟨delivery, _, logs⟩
  accepted s accepts := by
    have on : session.watched.main.engine = session.main.engine.watched := rfl
    exact ⟨init_of_accepts accepts, calls_of_accepts on accepts, isOpen⟩
  refused earlier text later s₁ term s₂ split accepts refuses := by
    have onEngine : session.watched.engine = session.engine.watched := rfl
    have on : session.watched.main.engine = session.engine.watched := by rw [← onMain]; rfl
    obtain ⟨calls, closed⟩ := refused_watched (w := w.watched) onEngine on isOpen split accepts
      refuses
    have given := init_of_refused (w := w.watched) split accepts refuses isOpen
    refine ⟨fun closes => ?_, fun failure closes => ?_, calls, closed⟩ <;>
      rw [given] <;> simp only [closes]

/-- The second text is refused, and the callback for success comes after that. -/
def balking : Script where
  consults := [(1, { first := .refused (.atom "oops"), repeats := [.accepted] })]

/-- The session that is opened on an engine that refuses the second text. -/
def balked : Session Scripted.State :=
  ⟨Scripted.engine balking, 0, 0, Scripted.thread balking 0⟩

theorem init_initialisesUpTo_balked :
    InitialisesUpTo balked.watched "l." "s." (World.initial Scripted.State.initial).watched ∧
      ((balked.watched.init "l." "s.").result (World.initial Scripted.State.initial).watched).1 =
        .error (.logic (LogicError.ofTerm (.atom "oops"))) := by
  have hears : balked.main.HearsBack := fun _ _ => ⟨_, _, rfl⟩
  have given := init_initialisesUpTo balked rfl hears (.initial .initial) rfl "l." "s."
  refine ⟨given, (given.refused ["l."] Engine.defaultSupportLibrary ["s."] _ (.atom "oops") _ rfl
    (.cons rfl rfl (.nil _)) ⟨_, rfl, rfl⟩).1 rfl⟩

/-! ## An engine that fails to close -/

/-- The error of the first text that is refused is the outcome of the initialisation. -/
def RaisesRefusal (session : Session σ) (w : World σ) : Prop :=
  ∀ linkage source earlier text later s₁ term s₂,
    session.texts linkage source = earlier ++ text :: later →
    session.main.Accepts earlier w.backend s₁ → session.main.Refuses text s₁ term s₂ →
      ((session.init linkage source).result w).1 = .error (.logic (LogicError.ofTerm term))

/-- Behind the bridge: the first text is refused, and there is no reply when the module is to be
disposed of. -/
def undisposedReplies : List Bridge.Reply :=
  [⟨true, [("R", .array [.string "throw", .array [.string "atom", .string "oops"]])]⟩]

/-- The session there. -/
def undisposed : Session Bridge.State := ⟨Bridge.engine, 0, 0, ⟨Bridge.engine, 0⟩⟩

/-- The world in which it has just been started. -/
def undisposedWorld : World Bridge.State :=
  ((start Bridge.engine).result (.initial (.initial undisposedReplies))).2

/-- A session that has been started need not raise the refusal: a failure to close takes its
place. -/
theorem not_raisesRefusal_undisposed :
    ((start Bridge.engine).result (.initial (.initial undisposedReplies))).1 = .ok undisposed ∧
      ¬ RaisesRefusal undisposed undisposedWorld := by
  refine ⟨rfl, fun raises => ?_⟩
  have given := raises "l." "s." [] "l." [Engine.defaultSupportLibrary, "s."] _ (.atom "oops") _
    rfl (.nil _) ⟨_, rfl, rfl⟩
  have closes : ((undisposed.init "l." "s.").result undisposedWorld).1 =
      .error (.bridge (.goalFailed "bridge_dispose(M)")) := rfl
  rw [closes] at given
  cases given

end Session

end WorkspacePolicy
