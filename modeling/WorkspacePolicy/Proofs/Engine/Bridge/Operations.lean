/-
# Proofs.Engine.Bridge.Operations — sessions with their threads, and runs of operations

A thread is in one session. A session lists its threads until it is closed, so that closing it
reaches all of them (`Roster`). Every operation keeps the roster, whatever the other side
replies (`operate_roster`), and so does every run of operations.

Closing a session stops its threads one after another. Only after all of them have been
stopped is the module disposed of (`close_of_stopped`), and then none of them has a current query
(`current_of_stopAll`).
-/
import WorkspacePolicy.Proofs.Engine.Bridge.Calls

namespace WorkspacePolicy.Bridge

set_option autoImplicit false

/-! ## Operations -/

/-- A use of the engine. -/
inductive Operation where
  | setup
  | createSession
  | createThread (session : Nat)
  | consult (thread : Nat) (source : String)
  | query (thread : Nat) (source : String)
  | answer (thread : Nat)
  | close (session : Nat)

namespace Operation

/-- The session or the thread that is used has been made. -/
def Possible (s : State) : Operation → Prop
  | .setup | .createSession => True
  | .createThread k | .close k => k < s.sessions.size
  | .consult n _ | .query n _ | .answer n => n < s.threads.size

instance (s : State) : DecidablePred (Possible s)
  | .setup | .createSession => .isTrue trivial
  | .createThread k | .close k => Nat.decLt k s.sessions.size
  | .consult n _ | .query n _ | .answer n => Nat.decLt n s.threads.size

/-- The state after a use of the engine, which may fail. -/
def after (s : State) : Operation → State
  | .setup => (engine.setup.result s).2
  | .createSession => (engine.createSession.result s).2
  | .createThread k => ((engine.createThread k).result s).2
  | .consult n source => ((engine.consult n source).result s).2
  | .query n source => ((engine.query n source).result s).2
  | .answer n => ((engine.answer n).result s).2
  | .close k => ((engine.close k).result s).2

end Operation

/-- One operation; what has not been made cannot be used. -/
def operate (s : State) (op : Operation) : State := if op.Possible s then op.after s else s

/-- A run of operations. -/
def run (s : State) (ops : List Operation) : State := ops.foldl operate s

variable {s s' : State} {n k : Nat}

/-! ## States after -/

theorem setup_result : setup.result s = (.ok (), s) ∨
    setup.result s = (.ok (), { s with loaded := true, trace := s.trace ++ [.load] }) := by
  unfold setup
  rw [Action.result_bind, Action.result_get]
  cases loaded : s.loaded with
  | true => exact .inl (by simp [loaded])
  | false => exact .inr (by simp [loaded])

theorem createThread_result (k : Nat) : (createThread k).result s = (.ok s.threads.size, { s with
    threads := s.threads.add ⟨k, 0, none⟩
    sessions := s.sessions.set k
      { s.sessions.get k with threads := (s.sessions.get k).threads ++ [s.threads.size] } }) := rfl

/-- A new session gets its main thread as every further one. -/
theorem createSession_result : createSession.result s =
    (.ok ⟨s.sessions.size, s.threads.size⟩,
      ((createThread s.sessions.size).result
        { s with sessions := s.sessions.add ⟨[], false⟩ }).2) := rfl

/-- A thread without a current query stays so while others are stopped. -/
theorem idle_of_stopAll {failure : Except Failure Unit} (stopped : List Nat)
    (idle : (s.threads.get n).current = none)
    (given : (stopAll stopped).result s = (failure, s')) : (s'.threads.get n).current = none := by
  induction stopped generalizing s with
  | nil =>
      cases given
      exact idle
  | cons m rest ih =>
      have kept : ∀ s₁, ((stopCurrent m).result s).2 = s₁ → (s₁.threads.get n).current = none := by
        rintro s₁ rfl
        cases current : (s.threads.get m).current with
        | none =>
            rw [stopCurrent_of_none current]
            exact idle
        | some a =>
            rw [stopCurrent_of_some current]
            split
            · simp only [State.holding, State.setThread, Numbered.get_set]
              split
              · rfl
              · exact idle
            · exact idle
      unfold stopAll at given
      rw [Action.result_bind] at given
      rcases first : (stopCurrent m).result s with ⟨_ | _, s₁⟩ <;> rw [first] at given
      · cases given
        exact kept _ (by rw [first])
      · exact ih (kept s₁ (by rw [first])) given

/-- Threads that could all be stopped have no current query. -/
theorem current_of_stopAll {stopped : List Nat}
    (given : (stopAll stopped).result s = (.ok (), s')) :
    ∀ n ∈ stopped, (s'.threads.get n).current = none := by
  induction stopped generalizing s with
  | nil => simp
  | cons m rest ih =>
      unfold stopAll at given
      rw [Action.result_bind] at given
      rcases first : (stopCurrent m).result s with ⟨_ | _, s₁⟩ <;> rw [first] at given
      · cases given
      · intro n member
        rcases List.mem_cons.mp member with rfl | member
        · exact idle_of_stopAll rest (current_of_stopCurrent first) given
        · exact ih given n member

/-- The state in which a session counts as closed and its threads are about to be stopped. -/
def State.closing (s : State) (k : Nat) : State :=
  s.setSession k { s.sessions.get k with closed := true }

theorem close_of_closed (closed : (s.sessions.get k).closed = true) :
    (close k).result s = (.ok (), s) := by
  unfold close
  rw [Action.result_bind, Action.result_get]
  simp [closed]

theorem close_of_open (isOpen : (s.sessions.get k).closed = false) :
    (close k).result s = (do
      stopAll (s.sessions.get k).threads
      modify fun s => s.setSession k ⟨[], true⟩
      let _ ← call (.dispose k) : Action State Unit).result (s.closing k) := by
  unfold close
  rw [Action.result_bind, Action.result_get]
  simp only [isOpen]
  rfl

theorem close_of_failure {failure : Failure} {s₁ : State}
    (isOpen : (s.sessions.get k).closed = false)
    (stopped : (stopAll (s.sessions.get k).threads).result (s.closing k) = (.error failure, s₁)) :
    (close k).result s = (.error failure, s₁) := by
  rw [close_of_open isOpen, Action.result_bind_error _ stopped]

/-- The module is disposed of after all threads have been stopped. -/
theorem close_of_stopped {s₁ : State} (isOpen : (s.sessions.get k).closed = false)
    (stopped : (stopAll (s.sessions.get k).threads).result (s.closing k) = (.ok (), s₁)) :
    (close k).result s =
      (if s₁.reply.succeeded then .ok () else .error (.bridge (.goalFailed (Goal.dispose k).text)),
        (s₁.setSession k ⟨[], true⟩).called (.dispose k)) := by
  rw [close_of_open isOpen, Action.result_bind_ok _ stopped, Action.result_bind,
    Action.result_modify]
  simp only []
  have reply : (s₁.setSession k ⟨[], true⟩).reply = s₁.reply := rfl
  rw [Action.result_bind, call_result, reply]
  by_cases succeeded : s₁.reply.succeeded
  · simp only [succeeded, if_true]
    rfl
  · simp only [succeeded]
    rfl

/-! ## The roster -/

/-- Every thread is in a session that has been made, and a session lists only threads of its
own, all of them as long as it has not been closed; a current query belongs to its thread. -/
structure Roster (s : State) : Prop where
  homes : ∀ n, n < s.threads.size → (s.threads.get n).session < s.sessions.size
  members : ∀ k, ∀ n ∈ (s.sessions.get k).threads,
    n < s.threads.size ∧ (s.threads.get n).session = k
  listed : ∀ n, n < s.threads.size → (s.sessions.get (s.threads.get n).session).closed = false →
    n ∈ (s.sessions.get (s.threads.get n).session).threads
  owned : s.Owned

namespace Roster

theorem initial (replies : List Reply) : Roster (.initial replies) where
  homes _ known := absurd known (Nat.not_lt_zero _)
  members _ _ member := absurd member List.not_mem_nil
  listed _ known := absurd known (Nat.not_lt_zero _)
  owned _ _ current := nomatch current

theorem of_within {session : Nat} {group : List Nat} (roster : Roster s)
    (within : Within session group [] s s') : Roster s' := by
  have sessions : ∀ k, s'.sessions.get k = s.sessions.get k :=
    fun k => within.sessions k List.not_mem_nil
  refine ⟨fun n => ?_, fun k n => ?_, fun n => ?_, within.owned⟩
  · rw [within.threadCount, within.sessionCount, within.home]
    exact roster.homes n
  · rw [within.threadCount, within.home, sessions]
    exact roster.members k n
  · rw [within.threadCount, within.home, sessions]
    exact roster.listed n

/-- A session that has been closed may list any part of its threads. -/
theorem setSession (roster : Roster s) {entry : SessionState} (closed : entry.closed = true)
    (part : ∀ n ∈ entry.threads, n ∈ (s.sessions.get k).threads) :
    Roster (s.setSession k entry) := by
  have sessions : ∀ l, (s.setSession k entry).sessions.get l =
      if l = k then entry else s.sessions.get l := fun l => Numbered.get_set ..
  refine ⟨roster.homes, fun l n => ?_, fun n => ?_, roster.owned⟩
  · rw [sessions]
    split
    · next same =>
        rw [same]
        exact fun member => roster.members k n (part n member)
    · exact roster.members l n
  · show n < s.threads.size → ((s.setSession k entry).sessions.get (s.threads.get n).session).closed
      = false → n ∈ ((s.setSession k entry).sessions.get (s.threads.get n).session).threads
    rw [sessions]
    split
    · simp [closed]
    · exact roster.listed n

theorem addSession (roster : Roster s) :
    Roster { s with sessions := s.sessions.add ⟨[], false⟩ } := by
  have old : ∀ k, k ≠ s.sessions.size →
      (s.sessions.add ⟨[], false⟩).get k = s.sessions.get k := by
    intro k other
    rw [Numbered.get_add, if_neg other]
  refine ⟨fun n known => Nat.lt_succ_of_lt (roster.homes n known), fun k n member => ?_,
    fun n known => ?_, roster.owned⟩
  · by_cases new : k = s.sessions.size
    · subst new
      simp at member
    · rw [old k new] at member
      exact roster.members k n member
  · have home := roster.homes n known
    simp only [old _ (Nat.ne_of_lt home)]
    exact roster.listed n known

theorem createThread (roster : Roster s) (known : k < s.sessions.size) :
    Roster ((Bridge.createThread k).result s).2 := by
  rw [createThread_result]
  have new : (s.threads.add ⟨k, 0, none⟩).get s.threads.size = ⟨k, 0, none⟩ := by simp
  have old : ∀ n, n ≠ s.threads.size →
      (s.threads.add ⟨k, 0, none⟩).get n = s.threads.get n := by
    intro n other
    rw [Numbered.get_add, if_neg other]
  have sessions : ∀ l n, n ∈ ((s.sessions.set k { s.sessions.get k with
        threads := (s.sessions.get k).threads ++ [s.threads.size] }).get l).threads ↔
      n ∈ (s.sessions.get l).threads ∨ (l = k ∧ n = s.threads.size) := by
    intro l n
    rw [Numbered.get_set]
    split
    · next same => simp [same]
    · next other => simp [other]
  have closed : ∀ l, ((s.sessions.set k { s.sessions.get k with
        threads := (s.sessions.get k).threads ++ [s.threads.size] }).get l).closed =
      (s.sessions.get l).closed := by
    intro l
    rw [Numbered.get_set]
    split
    · next same => rw [same]
    · rfl
  refine ⟨fun n made => ?_, fun l n member => ?_, fun n made => ?_, fun n a current => ?_⟩
  · by_cases last : n = s.threads.size
    · simp only [last, new]
      exact known
    · simp only [old n last]
      exact roster.homes n (by simp at made; omega)
  · rcases (sessions l n).mp member with member | ⟨rfl, rfl⟩
    · obtain ⟨made, home⟩ := roster.members l n member
      simp only [old n (Nat.ne_of_lt made)]
      exact ⟨Nat.lt_succ_of_lt made, home⟩
    · simp only [new]
      exact ⟨Nat.lt_succ_self _, trivial⟩
  · rw [closed, sessions]
    by_cases last : n = s.threads.size
    · simp only [last, new]
      exact fun _ => .inr ⟨trivial, trivial⟩
    · simp only [old n last]
      exact fun isOpen => .inl (roster.listed n (by simp at made; omega) isOpen)
  · by_cases last : n = s.threads.size
    · simp only [last, new] at current
      cases current
    · simp only [old n last] at current ⊢
      exact roster.owned n a current

theorem createSession (roster : Roster s) : Roster (Bridge.createSession.result s).2 := by
  rw [createSession_result]
  exact roster.addSession.createThread (Nat.lt_succ_self _)

/-- The threads that a session lists are its own. -/
theorem homes_of_members (roster : Roster s) :
    ∀ n ∈ (s.sessions.get k).threads, (s.threads.get n).session = k :=
  fun n member => (roster.members k n member).2

/-- The threads of a session can be stopped from where it counts as closed. -/
theorem stopAll_within (roster : Roster s) : Within k (s.sessions.get k).threads [] (s.closing k)
    ((stopAll (s.sessions.get k).threads).result (s.closing k)).2 :=
  StaysWithin.stopAll _ (fun _ member => member) _ roster.owned roster.homes_of_members

theorem close (roster : Roster s) : Roster ((Bridge.close k).result s).2 := by
  cases closed : (s.sessions.get k).closed with
  | true =>
      rw [close_of_closed closed]
      exact roster
  | false =>
      have closing : Roster (s.closing k) := roster.setSession rfl fun _ member => member
      have stopped : Roster ((stopAll (s.sessions.get k).threads).result (s.closing k)).2 :=
        closing.of_within roster.stopAll_within
      rcases given : (stopAll (s.sessions.get k).threads).result (s.closing k) with
        ⟨failure | _, s₁⟩ <;> rw [given] at stopped
      · rw [close_of_failure closed given]
        exact stopped
      · rw [close_of_stopped closed given]
        have emptied : Roster (s₁.setSession k ⟨[], true⟩) :=
          stopped.setSession rfl fun _ member => absurd member List.not_mem_nil
        exact ⟨emptied.homes, emptied.members, emptied.listed, emptied.owned⟩

/-- A thread works within its session. -/
theorem of_thread (roster : Roster s)
    (within : StaysWithin (s.threads.get n).session [n] [] s s') : Roster s' :=
  roster.of_within (within roster.owned (by simp))

end Roster

/-- **Every operation keeps the roster**, whatever is replied. -/
theorem operate_roster (op : Operation) (roster : Roster s) : Roster (operate s op) := by
  unfold operate
  split
  case isFalse => exact roster
  case isTrue possible =>
    cases op with
    | setup =>
        show Roster (setup.result s).2
        rcases setup_result (s := s) with given | given <;> rw [given]
        · exact roster
        · exact ⟨roster.homes, roster.members, roster.listed, roster.owned⟩
    | createSession => exact roster.createSession
    | createThread k => exact roster.createThread possible
    | consult n source =>
        exact roster.of_thread (consult_staysWithin (List.mem_singleton_self n) source)
    | query n source =>
        exact roster.of_thread (query_staysWithin (List.mem_singleton_self n) source)
    | answer n => exact roster.of_thread (answer_staysWithin (List.mem_singleton_self n))
    | close k => exact roster.close

theorem run_roster (ops : List Operation) (roster : Roster s) : Roster (run s ops) := by
  induction ops generalizing s with
  | nil => exact roster
  | cons op ops ih => exact ih (operate_roster op roster)

end WorkspacePolicy.Bridge
