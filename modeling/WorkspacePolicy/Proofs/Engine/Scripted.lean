/-
# Proofs.Engine.Scripted — what a thread gets from a script

A thread of the scripted engine sees four things of its script: how each consult is taken
(`consult_result`), how a query is taken (`startQuery_result`), and then the answers that it
hears, one for each request, up to the first delivery that is empty (`heard`,
`nextAnswer_result`). Repeated callbacks leave no trace in any of them.

Every request takes one delivery from the pending ones and adds one event to the trace
(`State.pulled`), also when nothing is pending.
-/
import WorkspacePolicy.Engine.Scripted
import WorkspacePolicy.Proofs.Engine.Action

namespace WorkspacePolicy

set_option autoImplicit false

namespace Thread

/-- What an acknowledgement comes to. -/
def settled : Acknowledgement → Except Failure Unit
  | .accepted => .ok ()
  | .refused term => .error (.logic (LogicError.ofTerm term))

theorem settle_result {σ : Type} (taken : Acknowledgement) (s : σ) :
    (settle taken : Action σ Unit).result s = (settled taken, s) := by
  cases taken <;> rfl

end Thread

namespace Script

/-- How the engine takes a query. -/
def acknowledgement (script : Script) (source : String) : Acknowledgement :=
  match script.queryFor? source with
  | some delivery => delivery.first
  | none => .accepted

/-- What is pending on a thread after a query. -/
def pendingFor (script : Script) (source : String) (before : List (Delivery (Option Answer))) :
    List (Delivery (Option Answer)) :=
  match script.queryFor? source with
  | some _ => before
  | none => script.answersFor source

end Script

namespace Scripted

/-- The answers that pending deliveries give before the end. -/
def heard : List (Delivery (Option Answer)) → List Answer
  | [] => []
  | delivery :: rest =>
    match delivery.first with
    | none => []
    | some answer => answer :: heard rest

theorem heard_map (answers : List Answer) :
    heard (answers.map fun answer => { first := some answer }) = answers := by
  induction answers with
  | nil => rfl
  | cons answer rest ih => rw [List.map_cons, heard, ih]

theorem length_heard_le (pending : List (Delivery (Option Answer))) :
    (heard pending).length ≤ pending.length := by
  induction pending with
  | nil => exact Nat.le_refl 0
  | cons delivery rest ih =>
      unfold heard
      cases delivery.first with
      | none => simp
      | some answer => simpa using ih

theorem heard_drop_one {pending : List (Delivery (Option Answer))} {answer : Answer}
    {rest : List Answer} (hears : heard pending = answer :: rest) :
    heard (pending.drop 1) = rest := by
  cases pending with
  | nil => simp [heard] at hears
  | cons delivery pending =>
      unfold heard at hears
      cases given : delivery.first with
      | none => simp [given] at hears
      | some first =>
          rw [given] at hears
          exact (List.cons.inj hears).2

/-- A thread of the engine that plays a script. -/
def thread (script : Script) (main : Nat) : Thread State := ⟨engine script, main⟩

namespace State

/-- The state after some texts were consulted. -/
def consults (s : State) (main : Nat) (sources : List String) : State :=
  { s with
    consulted := s.consulted + sources.length
    trace := s.trace ++ sources.map (.consult main) }

/-- The state after a query. -/
def queried (s : State) (script : Script) (main : Nat) (source : String) : State :=
  { s with
    pending := s.pending.set main (script.pendingFor source (s.pending.get main))
    trace := s.trace ++ [.query main source] }

/-- The state after some requests for an answer. -/
def pulled (s : State) (main : Nat) (n : Nat) : State :=
  { s with
    pending := s.pending.set main ((s.pending.get main).drop n)
    trace := s.trace ++ List.replicate n (.answer main) }

@[simp] theorem trace_record (s : State) (event : Event) :
    (s.record event).trace = s.trace ++ [event] := rfl

@[simp] theorem trace_consults (s : State) (main : Nat) (sources : List String) :
    (s.consults main sources).trace = s.trace ++ sources.map (.consult main) := rfl

@[simp] theorem trace_queried (s : State) (script : Script) (main : Nat) (source : String) :
    (s.queried script main source).trace = s.trace ++ [.query main source] := rfl

@[simp] theorem trace_pulled (s : State) (main n : Nat) :
    (s.pulled main n).trace = s.trace ++ List.replicate n (.answer main) := rfl

theorem consults_consults (s : State) (main : Nat) (sources more : List String) :
    (s.consults main sources).consults main more = s.consults main (sources ++ more) := by
  simp [consults, Nat.add_assoc]

theorem pulled_pulled (s : State) (main m n : Nat) :
    (s.pulled main m).pulled main n = s.pulled main (m + n) := by
  simp [pulled, List.drop_drop, List.replicate_append_replicate]

@[simp] theorem get_pending_consults (s : State) (main : Nat) (sources : List String) (k : Nat) :
    (s.consults main sources).pending.get k = s.pending.get k := rfl

@[simp] theorem get_pending_pulled (s : State) (main n : Nat) :
    (s.pulled main n).pending.get main = (s.pending.get main).drop n := by
  simp [pulled]

@[simp] theorem get_pending_queried (s : State) (script : Script) (main : Nat) (source : String) :
    (s.queried script main source).pending.get main =
      script.pendingFor source (s.pending.get main) := by
  simp [queried]

end State

variable {script : Script} {main : Nat} {s : State}

theorem consult_result (source : String) :
    ((thread script main).consult source).result s =
      (Thread.settled (script.consultAt s.consulted).first, s.consults main [source]) :=
  Thread.settle_result _ _

theorem consults_accepted {sources : List String}
    (accepted : ∀ i < sources.length, (script.consultAt (s.consulted + i)).first = .accepted) :
    (forM sources (thread script main).consult).result s = (.ok ⟨⟩, s.consults main sources) := by
  induction sources generalizing s with
  | nil => simp [State.consults]
  | cons source rest ih =>
      have first : (script.consultAt s.consulted).first = .accepted := accepted 0 (by simp)
      have others : ∀ i < rest.length,
          (script.consultAt ((s.consults main [source]).consulted + i)).first = .accepted := by
        intro i below
        have later := accepted (i + 1) (by simpa using below)
        rwa [Nat.add_comm i 1, ← Nat.add_assoc] at later
      rw [List.forM_cons, Action.result_bind, consult_result, first]
      simp only [Thread.settled]
      rw [ih others, State.consults_consults, List.singleton_append]

theorem consults_refused {sources later : List String} {source : String} {term : Term}
    (accepted : ∀ i < sources.length, (script.consultAt (s.consulted + i)).first = .accepted)
    (refused : (script.consultAt (s.consulted + sources.length)).first = .refused term) :
    (forM (sources ++ source :: later) (thread script main).consult).result s =
      (.error (.logic (LogicError.ofTerm term)), s.consults main (sources ++ [source])) := by
  rw [List.forM_append, Action.result_bind_ok _ (consults_accepted accepted), List.forM_cons,
    Action.result_bind, consult_result]
  have last : (s.consults main sources).consulted = s.consulted + sources.length := rfl
  rw [last, refused, State.consults_consults]
  rfl

theorem query_result (source : String) :
    (query script main source).result s =
      (.ok ((script.queryFor? source).getD Script.accepted), s.queried script main source) := by
  unfold query record State.queried Script.pendingFor
  rw [Action.result_bind, Action.result_modify]
  cases script.queryFor? source with
  | none => rfl
  | some delivery =>
      simp only [Numbered.set_get_self]
      rfl

theorem startQuery_result (source : String) :
    ((thread script main).startQuery source).result s =
      (Thread.settled (script.acknowledgement source), s.queried script main source) := by
  show (query script main source >>= fun taken => Thread.settle taken.first).result s = _
  rw [Action.result_bind_ok _ (query_result source), Thread.settle_result]
  unfold Script.acknowledgement
  cases script.queryFor? source <;> rfl

theorem answer_result :
    (answer main).result s =
      (.ok ((s.pending.get main).head?.getD { first := none }), s.pulled main 1) := by
  unfold answer record State.pulled
  simp only [Action.result_bind, Action.result_modify, Action.result_get, State.record]
  cases waiting : s.pending.get main with
  | nil =>
      rw [List.drop_nil, ← waiting, Numbered.set_get_self, waiting]
      rfl
  | cons next rest => rfl

/-- What the first of some answers comes to for a request. -/
def firstOf : List Answer → Except Failure (Option Bindings)
  | [] => .ok none
  | .bindings links :: _ => .ok (some links)
  | .thrown term :: _ => .error (.logic (LogicError.ofTerm term))

theorem nextAnswer_result :
    (thread script main).nextAnswer.result s =
      (firstOf (heard (s.pending.get main)), s.pulled main 1) := by
  unfold Thread.nextAnswer
  show (answer main >>= _).result s = _
  rw [Action.result_bind_ok _ answer_result]
  cases s.pending.get main with
  | nil => rfl
  | cons next rest =>
      simp only [List.head?_cons, Option.getD_some, heard]
      rcases next.first with _ | ⟨links⟩ | ⟨term⟩ <;> rfl

end Scripted

end WorkspacePolicy
