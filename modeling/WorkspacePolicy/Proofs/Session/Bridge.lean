/-
# Proofs.Session.Bridge — threads, sequences and sessions behind the bridge

A thread of the session layer does on the other side what its engine does, and the sequences on
it and the initialisation of its session stay within its session (`next_staysWithin`,
`drain_staysWithin`, `consultAll_staysWithin`). A thread without a current query has no answers,
and asking it leaves no trace (`ask_of_idle`).
-/
import WorkspacePolicy.Proofs.Engine.Bridge.Calls
import WorkspacePolicy.Proofs.Session.Steps

namespace WorkspacePolicy.Bridge

set_option autoImplicit false

variable {s : State} {n k : Nat}

/-! ## Threads and their sequences -/

/-- A thread behind the bridge. -/
def thread (n : Nat) : Thread State := ⟨engine, n⟩

section

variable {group : List Nat} {q : AnswerSequence State}

theorem thread_consult_state (n : Nat) (source : String) (s : State) :
    (((thread n).consult source).result s).2 = ((consult n source).result s).2 := by
  rw [Thread.consult_eq]
  rfl

theorem thread_startQuery_state (n : Nat) (source : String) (s : State) :
    (((thread n).startQuery source).result s).2 = ((query n source).result s).2 := by
  rw [Thread.startQuery_eq]
  rfl

theorem ask_state (n : Nat) (s : State) :
    ((AnswerSequence.ask (thread n)).run s).2 = ((answer n).result s).2 := by
  rw [AnswerSequence.ask_run, Thread.nextAnswer_eq]
  rfl

theorem next_staysWithin (member : n ∈ group) (own : ∀ t, q.thread? = some t → t = thread n) :
    StaysWithin k group [] s (q.next.run s).2 := by
  have asked : ∀ s, StaysWithin k group [] s ((AnswerSequence.ask (thread n)).run s).2 := by
    intro s
    rw [ask_state]
    exact answer_staysWithin member
  cases q with
  | fresh t query =>
      obtain rfl := own t rfl
      have start : StaysWithin k group [] s (((thread n).startQuery query).result s).2 := by
        rw [thread_startQuery_state]
        exact query_staysWithin member query
      rw [AnswerSequence.next_fresh_eq]
      rcases started : ((thread n).startQuery query).result s with ⟨_ | _, s'⟩ <;>
        rw [started] at start
      · exact start
      · exact start.trans (asked s')
  | running t =>
      obtain rfl := own t rfl
      exact asked s
  | finished => exact .refl s

theorem drain_staysWithin (member : n ∈ group) (own : ∀ t, q.thread? = some t → t = thread n) :
    StaysWithin k group [] s (q.drain.run s).2 :=
  (Pull.drainAll_related (R := StaysWithin k group [])
    (I := fun q => ∀ t, q.thread? = some t → t = thread n) .refl .trans
    (fun q s own => ⟨next_staysWithin member own, fun t same => own t (q.thread?_next s t same)⟩)
    own).1

/-- A thread without a current query has no answer, and says nothing to the other side. -/
theorem ask_of_idle (idle : (s.threads.get n).current = none) :
    (AnswerSequence.ask (thread n)).run s = ((.done, .finished), s) := by
  rw [AnswerSequence.ask_run, Thread.nextAnswer_eq]
  have given : (engine.answer n).result s = (.ok { first := none }, s) := answer_of_none idle
  simp only [thread, given]
  rfl

theorem drain_of_idle (idle : (s.threads.get n).current = none) :
    ((AnswerSequence.running (thread n)).drain.run s).2 = s := by
  have step : (AnswerSequence.running (thread n)).next.run s = ((.done, .finished), s) :=
    ask_of_idle idle
  rw [AnswerSequence.drain, Pull.drainAll_run, step]

end

/-! ## Sessions -/

theorem consultAll_staysWithin {group : List Nat} {session : Session State}
    (main : session.main = thread n) (member : n ∈ group) (linkage source : String) :
    StaysWithin k group [] s ((session.consultAll linkage source).result s).2 := by
  have one : ∀ text s, StaysWithin k group [] s ((session.main.consult text).result s).2 := by
    intro text s
    rw [main, thread_consult_state]
    exact consult_staysWithin member text
  unfold Session.consultAll
  exact Action.related_bind (R := StaysWithin k group []) .trans (one linkage s) fun _ s _ =>
    Action.related_bind (R := StaysWithin k group []) .trans (one _ s) fun _ s _ => one source s

theorem session_close_backend {session : Session State} {w : World State}
    (ours : session.engine = engine) : (session.close.result w).2.backend = w.backend ∨
      (session.close.result w).2.backend = ((close session.inEngine).result w.backend).2 := by
  rw [Session.close_eq, ours]
  split
  · exact .inl rfl
  · exact .inr rfl

/-- After the three texts the session may have been closed. -/
theorem init_backend {session : Session State} {w : World State} (ours : session.engine = engine)
    (linkage source : String) :
    let consulted := ((session.consultAll linkage source).result w.backend).2
    ((session.init linkage source).result w).2.backend = consulted ∨
      ((session.init linkage source).result w).2.backend =
        ((close session.inEngine).result consulted).2 := by
  rw [Session.init, Action.result_onFailure, World.result_onBackend]
  rcases (session.consultAll linkage source).result w.backend with ⟨failure | _, s₁⟩
  · have closes := session_close_backend (w := { w with backend := s₁ }) ours
    rcases given : session.close.result { w with backend := s₁ } with ⟨_ | _, w'⟩ <;>
      rw [given] at closes <;> simpa only [given] using closes
  · exact .inl rfl

end WorkspacePolicy.Bridge
