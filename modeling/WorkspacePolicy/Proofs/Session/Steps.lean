/-
# Proofs.Session.Steps — what threads, sequences and sessions ask of their engine

A thread asks its engine and turns what comes back into a result (`Thread.settled`,
`Thread.answered`); the state is the one that the engine leaves. A step of a sequence is one
answer of its thread, after the start of the query if the sequence is fresh. A session asks its
engine only as long as it is not closed. These equations hold for every engine.
-/
import WorkspacePolicy.Proofs.Session.Collect

namespace WorkspacePolicy

set_option autoImplicit false

variable {σ α : Type}

/-! ## Threads -/

namespace Thread

variable {t : Thread σ} {s : σ}

/-- What an answer comes to. -/
def answered : Option Answer → Except Failure (Option Bindings)
  | none => .ok none
  | some (.bindings links) => .ok (some links)
  | some (.thrown term) => .error (.logic (LogicError.ofTerm term))

theorem consult_eq (source : String) : (t.consult source).result s =
    (((t.engine.consult t.number source).result s).1.bind fun given => settled given.first,
      ((t.engine.consult t.number source).result s).2) := by
  unfold consult
  rw [Action.result_bind]
  rcases (t.engine.consult t.number source).result s with ⟨_ | given, s'⟩
  · rfl
  · exact settle_result given.first s'

theorem startQuery_eq (source : String) : (t.startQuery source).result s =
    (((t.engine.query t.number source).result s).1.bind fun given => settled given.first,
      ((t.engine.query t.number source).result s).2) := by
  unfold startQuery
  rw [Action.result_bind]
  rcases (t.engine.query t.number source).result s with ⟨_ | given, s'⟩
  · rfl
  · exact settle_result given.first s'

theorem startQuery_of_query {source : String} {delivery : Delivery Acknowledgement} {s' : σ}
    (taken : (t.engine.query t.number source).result s = (.ok delivery, s')) :
    (t.startQuery source).result s = (settled delivery.first, s') := by
  rw [startQuery_eq, taken]
  rfl

theorem nextAnswer_eq : t.nextAnswer.result s =
    (((t.engine.answer t.number).result s).1.bind fun given => answered given.first,
      ((t.engine.answer t.number).result s).2) := by
  unfold nextAnswer
  rw [Action.result_bind]
  rcases (t.engine.answer t.number).result s with ⟨_ | ⟨_ | ⟨_ | _⟩, _⟩, _⟩ <;> rfl

end Thread

/-! ## Sequences of answers -/

namespace AnswerSequence

variable {t : Thread σ} {s : σ}

/-- The step that an answer makes. -/
def given (t : Thread σ) : Except Failure (Option Bindings) → Pull Bindings × AnswerSequence σ
  | .ok (some links) => (.item links, .running t)
  | .ok none => (.done, .finished)
  | .error failure => (.failed failure, .finished)

theorem ask_run (t : Thread σ) (s : σ) :
    (ask t).run s = (given t (t.nextAnswer.result s).1, (t.nextAnswer.result s).2) := by
  rw [ask, StateT.run_bind, Action.run_outcome]
  rcases t.nextAnswer.result s with ⟨_ | _ | _, _⟩ <;> rfl

theorem next_running_of_answer {delivery : Delivery (Option Answer)} {s' : σ}
    (taken : (t.engine.answer t.number).result s = (.ok delivery, s')) :
    (next (.running t)).run s = (given t (Thread.answered delivery.first), s') := by
  rw [next, ask_run, Thread.nextAnswer_eq, taken]
  rfl

theorem next_fresh_eq (t : Thread σ) (query : String) (s : σ) : (next (.fresh t query)).run s =
    match (t.startQuery query).result s with
    | (.ok (), s') => (ask t).run s'
    | (.error failure, s') => ((.failed failure, .finished), s') := by
  rw [next, StateT.run_bind, Action.run_outcome]
  rcases (t.startQuery query).result s with ⟨_ | _, _⟩ <;> rfl

/-- The thread that a sequence still asks. -/
def thread? : AnswerSequence σ → Option (Thread σ)
  | .fresh t _ => some t
  | .running t => some t
  | .finished => none

/-- A sequence keeps its thread until it has finished. -/
theorem thread?_next (q : AnswerSequence σ) (s : σ) :
    ∀ t, (q.next.run s).1.2.thread? = some t → q.thread? = some t := by
  have asked : ∀ (t t' : Thread σ) (s : σ), ((ask t).run s).1.2.thread? = some t' → t = t' := by
    intro t t' s
    rw [ask_run]
    rcases (t.nextAnswer.result s).1 with _ | _ | _
    · rintro ⟨⟩
    · rintro ⟨⟩
    · exact fun same => Option.some.inj same
  cases q with
  | fresh t query =>
      intro t'
      rw [next_fresh_eq]
      rcases (t.startQuery query).result s with ⟨_ | _, s'⟩
      · rintro ⟨⟩
      · exact fun same => congrArg some (asked t t' s' same)
  | running t => exact fun t' same => congrArg some (asked t t' s same)
  | finished => exact fun t' same => same

end AnswerSequence

/-! ## Draining -/

namespace Pull

variable {τ : Type} {next : τ → StateM σ (Pull α × τ)} {R : σ → σ → Prop} {I : τ → Prop}

/-- What holds along every step holds along a drain, with what the steps keep of the sequence. -/
theorem drain_related (refl : ∀ s, R s s) (trans : ∀ {a b c}, R a b → R b c → R a c)
    (step : ∀ q s, I q → R s ((next q).run s).2 ∧ I ((next q).run s).1.2) (fuel : Nat) {q : τ}
    {s : σ} (before : I q) :
    R s ((drain next fuel q).run s).2 ∧ I ((drain next fuel q).run s).1.2 := by
  induction fuel generalizing q s with
  | zero => exact ⟨refl s, before⟩
  | succ fuel ih =>
      obtain ⟨along, kept⟩ := step q s before
      rw [drain_run]
      rcases stepped : (next q).run s with ⟨⟨value | _ | failure, q'⟩, s'⟩ <;>
        rw [stepped] at along kept
      · obtain ⟨rest, last⟩ := ih (s := s') kept
        exact ⟨trans along rest, last⟩
      · exact ⟨along, kept⟩
      · exact ⟨along, kept⟩

theorem drainAll_related {remaining : τ → σ → Nat} (refl : ∀ s, R s s)
    (trans : ∀ {a b c}, R a b → R b c → R a c)
    (step : ∀ q s, I q → R s ((next q).run s).2 ∧ I ((next q).run s).1.2) {q : τ} {s : σ}
    (before : I q) :
    R s ((drainAll next remaining q).run s).2 ∧ I ((drainAll next remaining q).run s).1.2 := by
  obtain ⟨along, kept⟩ := step q s before
  rw [drainAll_run]
  rcases stepped : (next q).run s with ⟨⟨value | _ | failure, q'⟩, s'⟩ <;>
    rw [stepped] at along kept
  · obtain ⟨rest, last⟩ := drain_related refl trans step (remaining q' s' + 1) (s := s') kept
    exact ⟨trans along rest, last⟩
  · exact ⟨along, kept⟩
  · exact ⟨along, kept⟩

/-- What holds after the first step and is kept by the others holds after a drain. -/
theorem drainAll_of_first {remaining : τ → σ → Nat} {P : σ → Prop} {q : τ} {s : σ}
    (first : P ((next q).run s).2) (kept : I ((next q).run s).1.2)
    (step : ∀ q s, I q → (P s → P ((next q).run s).2) ∧ I ((next q).run s).1.2) :
    P ((drainAll next remaining q).run s).2 := by
  rw [drainAll_run]
  rcases stepped : (next q).run s with ⟨⟨value | _ | failure, q'⟩, s'⟩ <;>
    rw [stepped] at first kept
  · have rest := drain_related (R := fun s s' => P s → P s') (fun _ holds => holds)
      (fun early late holds => late (early holds)) step (remaining q' s' + 1) (s := s') kept
    exact rest.1 first
  · exact first
  · exact first

end Pull

theorem AnswerSequence.thread?_drain (q : AnswerSequence σ) (s : σ) :
    ∀ t, (q.drain.run s).1.2.thread? = some t → q.thread? = some t :=
  (Pull.drainAll_related (R := fun _ _ => True)
    (I := fun q' : AnswerSequence σ => ∀ t, q'.thread? = some t → q.thread? = some t)
    (fun _ => trivial) (fun _ _ => trivial)
    (fun (q' : AnswerSequence σ) s own => ⟨trivial, fun t same => own t (q'.thread?_next s t same)⟩)
    (fun _ same => same)).2

/-! ## Sessions -/

namespace Session

variable {engine : Engine σ} {session : Session σ} {w : World σ}

theorem consultAll_eq_forM (session : Session σ) (linkage source : String) :
    session.consultAll linkage source =
      forM [linkage, session.engine.supportLibrary, source] session.main.consult := by
  simp [consultAll]

theorem start_of_opening {opening : Opening} {s₁ s₂ : σ}
    (ready : engine.setup.result w.backend = (.ok (), s₁))
    (opened : engine.createSession.result s₁ = (.ok opening, s₂)) :
    (start engine).result w =
      (.ok ⟨engine, w.closed.size, opening.session, ⟨engine, opening.main⟩⟩,
        ⟨s₂, w.closed.add false⟩) := by
  have setup : (World.onBackend engine.setup).result w = (.ok (), { w with backend := s₁ }) := by
    rw [World.result_onBackend, ready]
  have create : (World.onBackend engine.createSession).result { w with backend := s₁ } =
      (.ok opening, { w with backend := s₂ }) := by
    rw [World.result_onBackend, opened]
  unfold start
  rw [Action.result_bind_ok _ setup, Action.result_bind_ok _ create]
  rfl

theorem close_eq : session.close.result w = if session.isClosed w then (.ok (), w) else
    (((session.engine.close session.inEngine).result w.backend).1,
      ⟨((session.engine.close session.inEngine).result w.backend).2,
        w.closed.set session.number true⟩) := by
  unfold close
  rw [Action.result_bind, Action.result_get]
  cases closed : session.isClosed w
  · simp only [closed]
    rfl
  · simp only [closed]
    rfl

theorem createThread_eq : session.createThread.result w =
    if session.isClosed w then (.error .sessionClosed, w) else
      let made := (session.engine.createThread session.inEngine).result w.backend
      (made.1.map (⟨session.engine, ·⟩), { w with backend := made.2 }) := by
  unfold createThread
  rw [Action.result_bind, Action.result_get]
  cases closed : session.isClosed w
  · simp only [closed, Bool.false_eq_true, if_false]
    rw [Action.result_bind, World.result_onBackend]
    rcases (session.engine.createThread session.inEngine).result w.backend with ⟨_ | _, _⟩ <;> rfl
  · simp only [closed]
    rfl

end Session

end WorkspacePolicy
