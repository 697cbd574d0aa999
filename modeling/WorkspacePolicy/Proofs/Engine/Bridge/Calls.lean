/-
# Proofs.Engine.Bridge.Calls — what an operation does on the other side

Calling a goal uses up one reply and adds the goal to the trace (`State.called`), whatever the
reply is. Everything a thread does is made of such calls and of changes to its own entry, and
what a session does at its close is made of what its threads do and one last goal. So an
operation stays *within* a session and some of its threads (`Within`): all other threads and
sessions are left as they are, and every goal that it calls is about that session or a query
of one of those threads.

These statements hold for all replies, those included that make no sense.
-/
import WorkspacePolicy.Proofs.Engine.Action
import WorkspacePolicy.Proofs.Engine.Bridge.Goals

namespace WorkspacePolicy.Bridge

set_option autoImplicit false

/-! ## States -/

/-- What a goal gets when there is no reply left. -/
def Reply.missing : Reply := ⟨false, []⟩

/-- The goal of an event. -/
def Event.goal? : Event → Option Goal
  | .load => none
  | .call goal => some goal

namespace State

/-- The goals that were called, in order. -/
def goals (s : State) : List Goal := s.trace.filterMap Event.goal?

/-- The reply to the next goal. -/
def reply (s : State) : Reply := s.replies.head?.getD .missing

/-- The state after a goal. -/
def called (s : State) (goal : Goal) : State :=
  { s with replies := s.replies.tail, trace := s.trace ++ [.call goal] }

/-- The name of the next query of a thread. -/
def nextQuery (s : State) (n : Nat) : Alias :=
  ⟨(s.threads.get n).session, n, (s.threads.get n).started⟩

/-- The state after a thread has taken a name for a query. -/
def attempted (s : State) (n : Nat) : State :=
  s.setThread n { s.threads.get n with started := (s.threads.get n).started + 1 }

/-- The state with a current query for a thread, or without one. -/
def holding (s : State) (n : Nat) (current : Option Alias) : State :=
  s.setThread n { s.threads.get n with current := current }

@[simp] theorem threads_called (s : State) (goal : Goal) :
    (s.called goal).threads = s.threads := rfl

@[simp] theorem goals_called (s : State) (goal : Goal) :
    (s.called goal).goals = s.goals ++ [goal] := by
  simp [goals, called, Event.goal?]

@[simp] theorem goals_setThread (s : State) (n : Nat) (thread : ThreadState) :
    (s.setThread n thread).goals = s.goals := rfl

/-- The current query of a thread is a query of this thread. -/
def Owned (s : State) : Prop :=
  ∀ n a, (s.threads.get n).current = some a →
    a.session = (s.threads.get n).session ∧ a.thread = n

end State

variable {s s' s'' : State} {n : Nat}

/-! ## Results -/

theorem orFail_result {α : Type} (given : Except Fault α) (s : State) :
    (orFail given).result s = (given.mapError Failure.bridge, s) := by
  cases given <;> rfl

theorem nextReply_result :
    nextReply.result s = (.ok s.reply, { s with replies := s.replies.tail }) := by
  rcases s with ⟨_ | ⟨reply, rest⟩, _, _, _, _, _⟩ <;> rfl

theorem call_result (goal : Goal) : (call goal).result s =
    (if s.reply.succeeded then .ok s.reply else .error (.bridge (.goalFailed goal.text)),
      s.called goal) := by
  unfold call
  rw [Action.result_bind, Action.result_modify]
  simp only []
  rw [Action.result_bind, nextReply_result]
  show Action.result (if s.reply.succeeded = true then _ else _) _ = _
  split <;> rfl

theorem callFor_state (goal : Goal) (output : String) :
    ((callFor goal output).result s).2 = s.called goal := by
  unfold callFor
  rw [Action.result_bind, call_result]
  by_cases succeeded : s.reply.succeeded
  · simp only [succeeded, if_true]
    cases Entries.find? output s.reply.outputs <;> rfl
  · simp only [succeeded]
    rfl

theorem callFor_result {goal : Goal} {output : String} {data : Json}
    (succeeded : s.reply.succeeded) (found : Entries.find? output s.reply.outputs = some data) :
    (callFor goal output).result s = (.ok data, s.called goal) := by
  unfold callFor
  rw [Action.result_bind, call_result, if_pos succeeded]
  simp only [found]
  rfl

theorem stopCurrent_of_none (idle : (s.threads.get n).current = none) :
    (stopCurrent n).result s = (.ok (), s) := by
  unfold stopCurrent
  rw [Action.result_bind, Action.result_get]
  simp only [idle]
  rfl

theorem stopCurrent_of_some {a : Alias} (current : (s.threads.get n).current = some a) :
    (stopCurrent n).result s =
      if s.reply.succeeded then (.ok (), (s.called (.stop a)).holding n none)
      else (.error (.bridge (.goalFailed (Goal.stop a).text)), s.called (.stop a)) := by
  unfold stopCurrent
  rw [Action.result_bind, Action.result_get]
  simp only [current]
  rw [Action.result_bind, call_result]
  by_cases succeeded : s.reply.succeeded
  · simp only [succeeded, if_true]
    rfl
  · simp only [succeeded]
    rfl

/-- A current query that is stopped is one goal, whatever comes of it. -/
theorem stopCurrent_calls {a : Alias} (current : (s.threads.get n).current = some a) :
    ((stopCurrent n).result s).2.goals = (s.called (.stop a)).goals ∧
      ((stopCurrent n).result s).2.replies = (s.called (.stop a)).replies := by
  rw [stopCurrent_of_some current]
  split <;> exact ⟨rfl, rfl⟩

/-- A thread that could stop has no current query. -/
theorem current_of_stopCurrent (stopped : (stopCurrent n).result s = (.ok (), s')) :
    (s'.threads.get n).current = none := by
  cases current : (s.threads.get n).current with
  | none =>
      rw [stopCurrent_of_none current] at stopped
      cases stopped
      exact current
  | some a =>
      rw [stopCurrent_of_some current] at stopped
      split at stopped
      · cases stopped
        simp [State.holding, State.setThread]
      · cases stopped

theorem answer_of_none (idle : (s.threads.get n).current = none) :
    (answer n).result s = (.ok { first := none }, s) := by
  unfold answer
  rw [Action.result_bind, Action.result_get]
  simp only [idle]
  rfl

/-! ## What stays as it is -/

/-- The goal is about a session, or about a query of one of some threads in it. Only where the
session itself may change can it be disposed of. -/
def Goal.BelongsTo (session : Nat) (group changed : List Nat) : Goal → Prop
  | .consult k _ => k = session
  | .start k a _ => k = session ∧ a.session = session ∧ a.thread ∈ group
  | .next a | .stop a => a.session = session ∧ a.thread ∈ group
  | .dispose k => k = session ∧ session ∈ changed

/-- From one state to another nothing has changed but a group of threads of a session and the
sessions `changed`; all goals called in between belong to these. -/
structure Within (session : Nat) (group changed : List Nat) (s s' : State) : Prop where
  loaded : s'.loaded = s.loaded
  sessionCount : s'.sessions.size = s.sessions.size
  sessions : ∀ k, k ∉ changed → s'.sessions.get k = s.sessions.get k
  threadCount : s'.threads.size = s.threads.size
  threads : ∀ m, m ∉ group → s'.threads.get m = s.threads.get m
  home : ∀ m, (s'.threads.get m).session = (s.threads.get m).session
  owned : s'.Owned
  calls : ∃ goals : List Goal, s'.trace = s.trace ++ goals.map .call ∧
    s'.replies = s.replies.drop goals.length ∧ ∀ g ∈ goals, g.BelongsTo session group changed

/-- The goals that were called in between are added to those before. -/
theorem Within.goals_eq {session : Nat} {group changed : List Nat}
    (within : Within session group changed s s') : ∃ goals, s'.goals = s.goals ++ goals ∧
      s'.replies = s.replies.drop goals.length ∧
      ∀ g ∈ goals, g.BelongsTo session group changed := by
  obtain ⟨goals, traced, used, belong⟩ := within.calls
  have called : (goals.map Event.call).filterMap Event.goal? = goals := by
    rw [List.filterMap_map]
    exact List.filterMap_some
  refine ⟨goals, ?_, used, belong⟩
  rw [State.goals, traced, List.filterMap_append, called]
  rfl

/-- Where the group belongs to the session, the state after is within them. -/
def StaysWithin (session : Nat) (group changed : List Nat) (s s' : State) : Prop :=
  s.Owned → (∀ n ∈ group, (s.threads.get n).session = session) → Within session group changed s s'

namespace StaysWithin

variable {session : Nat} {group changed : List Nat}

theorem refl (s : State) : StaysWithin session group changed s s := fun owned _ =>
  ⟨rfl, rfl, fun _ _ => rfl, rfl, fun _ _ => rfl, fun _ => rfl, owned, [], by simp⟩

theorem trans (first : StaysWithin session group changed s s')
    (second : StaysWithin session group changed s' s'') :
    StaysWithin session group changed s s'' := by
  intro owned homes
  have before := first owned homes
  have after := second before.owned fun n member => (before.home n).trans (homes n member)
  obtain ⟨goals, traced, used, belong⟩ := before.calls
  obtain ⟨more, tracedAfter, usedAfter, belongAfter⟩ := after.calls
  refine ⟨after.loaded.trans before.loaded, after.sessionCount.trans before.sessionCount,
    fun k outside => (after.sessions k outside).trans (before.sessions k outside),
    after.threadCount.trans before.threadCount,
    fun m outside => (after.threads m outside).trans (before.threads m outside),
    fun m => (after.home m).trans (before.home m), after.owned, goals ++ more, ?_, ?_, ?_⟩
  · rw [tracedAfter, traced, List.map_append, List.append_assoc]
  · rw [usedAfter, used, List.drop_drop, List.length_append]
  · intro g member
    rcases List.mem_append.mp member with member | member
    · exact belong g member
    · exact belongAfter g member

theorem called {goal : Goal} (belongs : s.Owned →
      (∀ n ∈ group, (s.threads.get n).session = session) → goal.BelongsTo session group changed) :
    StaysWithin session group changed s (s.called goal) := by
  intro owned homes
  refine ⟨rfl, rfl, fun _ _ => rfl, rfl, fun _ _ => rfl, fun _ => rfl, owned, [goal], rfl, ?_, ?_⟩
  · simp [State.called]
  · intro g member
    rw [List.mem_singleton.mp member]
    exact belongs owned homes

/-- A thread may change its own entry but not its session, and may hold a query of its own. -/
theorem setThread {thread : ThreadState} (member : n ∈ group)
    (home : thread.session = (s.threads.get n).session)
    (own : s.Owned → ∀ a, thread.current = some a → a.session = thread.session ∧ a.thread = n) :
    StaysWithin session group changed s (s.setThread n thread) := by
  intro owned _
  have entry : ∀ m, (s.setThread n thread).threads.get m =
      if m = n then thread else s.threads.get m := fun m => Numbered.get_set ..
  refine ⟨rfl, rfl, fun _ _ => rfl, rfl, fun m outside => ?_, fun m => ?_, fun m a => ?_, [], by
    simp [State.setThread]⟩
  · rw [entry, if_neg]
    rintro rfl
    exact outside member
  · rw [entry]
    split
    · next same => rw [same, home]
    · rfl
  · rw [entry]
    split
    · next same =>
        rw [same]
        exact own owned a
    · exact owned m a

theorem attempted (member : n ∈ group) :
    StaysWithin session group changed s (s.attempted n) :=
  setThread member rfl fun owned => owned n

theorem holding {current : Option Alias} (member : n ∈ group)
    (own : ∀ a ∈ current, a.session = (s.threads.get n).session ∧ a.thread = n) :
    StaysWithin session group changed s (s.holding n current) :=
  setThread member rfl fun _ => own

/-- The current query of a thread is one that the thread may be asked about. -/
theorem belongs_of_current {a : Alias} (member : n ∈ group)
    (current : (s.threads.get n).current = some a) (owned : s.Owned)
    (homes : ∀ n ∈ group, (s.threads.get n).session = session) :
    a.session = session ∧ a.thread ∈ group := by
  obtain ⟨home, own⟩ := owned n a current
  exact ⟨home.trans (homes n member), own ▸ member⟩

theorem stopCurrent (member : n ∈ group) (s : State) :
    StaysWithin session group changed s ((Bridge.stopCurrent n).result s).2 := by
  cases current : (s.threads.get n).current with
  | none =>
      rw [stopCurrent_of_none current]
      exact refl s
  | some a =>
      rw [stopCurrent_of_some current]
      have stop : StaysWithin session group changed s (s.called (.stop a)) :=
        called (belongs_of_current member current)
      split
      · exact trans stop (holding member (by simp))
      · exact stop

theorem stopAll (stopped : List Nat) (members : ∀ n ∈ stopped, n ∈ group) (s : State) :
    StaysWithin session group changed s ((Bridge.stopAll stopped).result s).2 := by
  induction stopped generalizing s with
  | nil => exact refl s
  | cons n rest ih =>
      obtain ⟨member, others⟩ := List.forall_mem_cons.mp members
      exact Action.related_bind (R := StaysWithin session group changed) trans
        (stopCurrent member s) fun _ s' _ => ih others s'

end StaysWithin

/-! ## Operations of a thread -/

section

variable {α β : Type} {P : State → Prop}

theorem orFail_bind_state {given : Except Fault α} {next : α → Action State β} (stays : P s)
    (after : ∀ value, P ((next value).result s).2) : P ((orFail given >>= next).result s).2 := by
  rw [Action.result_bind, orFail_result]
  cases given with
  | error fault => exact stays
  | ok value => exact after value

theorem callFor_bind_state {goal : Goal} {output : String} {next : Json → Action State β}
    (stays : P (s.called goal)) (after : ∀ data, P ((next data).result (s.called goal)).2) :
    P ((callFor goal output >>= next).result s).2 := by
  have called := callFor_state (s := s) goal output
  rw [Action.result_bind]
  rcases given : (callFor goal output).result s with ⟨failure | data, s'⟩
  · rw [given] at called
    rw [← called] at stays
    exact stays
  · rw [given] at called
    obtain rfl : s' = s.called goal := called
    exact after data

end

/-- A consult is one goal, whatever comes of it. -/
theorem consult_state (source : String) : ∃ warnings, ((consult n source).result s).2 =
    { s.called (.consult (s.threads.get n).session source) with warnings := warnings } := by
  let P : State → Prop := fun s' => ∃ warnings, s' =
    { s.called (.consult (s.threads.get n).session source) with warnings := warnings }
  have unwarned : P (s.called (.consult (s.threads.get n).session source)) := ⟨s.warnings, rfl⟩
  show P ((consult n source).result s).2
  unfold consult
  rw [Action.result_bind, Action.result_get]
  refine callFor_bind_state unwarned fun _ => ?_
  refine orFail_bind_state unwarned fun _ => ?_
  split
  · exact orFail_bind_state unwarned fun _ => unwarned
  · exact orFail_bind_state unwarned fun _ => ⟨_, rfl⟩

theorem consult_goals (source : String) : ((consult n source).result s).2.goals =
    s.goals ++ [.consult (s.threads.get n).session source] := by
  obtain ⟨warnings, state⟩ := consult_state (s := s) (n := n) source
  rw [state]
  exact State.goals_called ..

/-- Once its current query has been stopped, a thread takes a new name and starts a query under
it; the name is its current query then, or the thread has none. -/
theorem query_state {s₁ : State} (source : String)
    (stopped : (stopCurrent n).result s = (.ok (), s₁)) :
    ((query n source).result s).2 =
        (s₁.attempted n).called (.start (s₁.threads.get n).session (s₁.nextQuery n) source) ∨
      ((query n source).result s).2 =
        ((s₁.attempted n).called
          (.start (s₁.threads.get n).session (s₁.nextQuery n) source)).holding n
            (some (s₁.nextQuery n)) := by
  let started := (s₁.attempted n).called
    (.start (s₁.threads.get n).session (s₁.nextQuery n) source)
  let P : State → Prop := fun s' => s' = started ∨ s' = started.holding n (some (s₁.nextQuery n))
  have idle : P started := .inl rfl
  show P ((query n source).result s).2
  unfold query
  rw [Action.result_bind_ok _ stopped, Action.result_bind, Action.result_get]
  simp only []
  rw [Action.result_bind, Action.result_modify]
  refine callFor_bind_state idle fun _ => ?_
  refine orFail_bind_state idle fun _ => ?_
  split
  · exact orFail_bind_state idle fun _ => idle
  · exact .inr rfl

theorem query_state_of_failure {failure : Failure} {s₁ : State} (source : String)
    (stopped : (stopCurrent n).result s = (.error failure, s₁)) :
    ((query n source).result s).2 = s₁ := by
  unfold query
  rw [Action.result_bind_error _ stopped]

/-- A thread with a current query asks for one answer, after which it may let go of the query
or stop it. -/
theorem answer_state {a : Alias} (current : (s.threads.get n).current = some a) :
    ((answer n).result s).2 = s.called (.next a) ∨
      ((answer n).result s).2 = (s.called (.next a)).holding n none ∨
      ((answer n).result s).2 = ((stopCurrent n).result (s.called (.next a))).2 := by
  let asked := s.called (.next a)
  let P : State → Prop := fun s' =>
    s' = asked ∨ s' = asked.holding n none ∨ s' = ((stopCurrent n).result asked).2
  have unchanged : P asked := .inl rfl
  show P ((answer n).result s).2
  unfold answer
  rw [Action.result_bind, Action.result_get]
  simp only [current]
  refine callFor_bind_state unchanged fun _ => ?_
  refine orFail_bind_state unchanged fun _ => ?_
  split
  · exact .inr (.inl rfl)
  · refine orFail_bind_state unchanged fun _ => ?_
    split
    · have stopped : P ((stopCurrent n).result asked).2 := .inr (.inr rfl)
      rw [Action.result_bind]
      rcases given : (stopCurrent n).result asked with ⟨failure | _, s'⟩
      · rwa [given] at stopped
      · rw [given] at stopped
        exact orFail_bind_state stopped fun _ => stopped
    · exact orFail_bind_state unchanged fun _ => unchanged

section

variable {session : Nat} {group changed : List Nat}

open StaysWithin

theorem consult_staysWithin (member : n ∈ group) (source : String) :
    StaysWithin session group changed s ((consult n source).result s).2 := by
  obtain ⟨warnings, state⟩ := consult_state (s := s) (n := n) source
  rw [state]
  have goal : StaysWithin session group changed s
      (s.called (.consult (s.threads.get n).session source)) := called fun _ homes => homes n member
  intro owned homes
  obtain ⟨loaded, count, sessions, threads, others, home, owned, calls⟩ := goal owned homes
  exact ⟨loaded, count, sessions, threads, others, home, owned, calls⟩

theorem query_staysWithin (member : n ∈ group) (source : String) :
    StaysWithin session group changed s ((query n source).result s).2 := by
  have stop : StaysWithin session group changed s ((Bridge.stopCurrent n).result s).2 :=
    StaysWithin.stopCurrent member s
  rcases stopped : (Bridge.stopCurrent n).result s with ⟨failure | _, s₁⟩
  · rw [query_state_of_failure source stopped]
    rwa [stopped] at stop
  · rw [stopped] at stop
    have start : StaysWithin session group changed s₁ ((s₁.attempted n).called
        (.start (s₁.threads.get n).session (s₁.nextQuery n) source)) := by
      refine trans (attempted member) (called fun _ homes => ?_)
      have home := homes n member
      simp only [State.attempted, State.setThread, Numbered.get_set_self] at home
      exact ⟨home, home, member⟩
    rcases query_state source stopped with state | state
    · rw [state]
      exact trans stop start
    · rw [state]
      refine trans stop (trans start (holding member ?_))
      rintro a ⟨⟩
      simp [State.nextQuery, State.attempted, State.setThread]

theorem answer_staysWithin (member : n ∈ group) :
    StaysWithin session group changed s ((answer n).result s).2 := by
  cases current : (s.threads.get n).current with
  | none =>
      rw [answer_of_none current]
      exact refl s
  | some a =>
      have next : StaysWithin session group changed s (s.called (.next a)) :=
        called (belongs_of_current member current)
      rcases answer_state current with state | state | state
      · rw [state]
        exact next
      · rw [state]
        exact trans next (holding member (by simp))
      · rw [state]
        exact trans next (StaysWithin.stopCurrent member _)

end

end WorkspacePolicy.Bridge
