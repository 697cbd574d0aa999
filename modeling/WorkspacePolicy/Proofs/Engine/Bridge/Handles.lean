/-
# Proofs.Engine.Bridge.Handles — queries are opened, used and ended in order

Where all replies say something, every operation is a chain of steps (`operate_follows`), and so
is every run. So the ledger holds after every run: a query that was opened gives answers, ends at
most once, and is not named again; the thread that it belongs to holds it until then, and no
other. Closing a session for the first time ends all queries of its threads (`close_ends`).
-/
import WorkspacePolicy.Proofs.Engine.Bridge.Ledger
import WorkspacePolicy.Proofs.Engine.Bridge.Operations

namespace WorkspacePolicy.Bridge

set_option autoImplicit false

open Relation

variable {replies : List Reply} {s s' s'' : State} {n k : Nat}

/-! ## Operations are chains of steps -/

/-- The entries of the threads and the log of a run that began with some replies. -/
def State.book (s : State) (replies : List Reply) : Book := ⟨s.threads, s.log replies⟩

/-- Between two states of a run the log has grown, and where all of it says something, what the
threads have done is a chain of steps. -/
structure Course (replies : List Reply) (s s' : State) : Prop where
  served : s'.Served replies
  logged : s.log replies <+: s'.log replies
  steps : (∀ e ∈ s'.log replies, e.IsWellFormed) →
    ReflTransGen Step (s.book replies) (s'.book replies)

/-- From the one state of a run there is a course to the other. -/
def Follows (replies : List Reply) (s s' : State) : Prop := s.Served replies → Course replies s s'

namespace Follows

theorem refl (s : State) : Follows replies s s := fun served =>
  ⟨served, List.prefix_rfl, fun _ => .refl⟩

theorem trans (first : Follows replies s s') (second : Follows replies s' s'') :
    Follows replies s s'' := by
  intro served
  have before := first served
  have after := second before.served
  refine ⟨after.served, before.logged.trans after.logged, fun wellFormed => ?_⟩
  have earlier : ∀ e ∈ s'.log replies, e.IsWellFormed :=
    fun e member => wellFormed e (after.logged.subset member)
  exact (before.steps earlier).trans (after.steps wellFormed)

/-- What is neither in the book nor a reply may change. -/
theorem of_same (threads : s'.threads = s.threads) (goals : s'.goals = s.goals)
    (unused : s'.replies = s.replies) : Follows replies s s' := by
  intro served
  have logs : s'.log replies = s.log replies := by rw [State.log, goals, State.log]
  have books : s'.book replies = s.book replies := by rw [State.book, threads, logs, State.book]
  refine ⟨?_, logs ▸ List.prefix_rfl, fun _ => books ▸ .refl⟩
  unfold State.Served at served ⊢
  rw [unused, goals, served]

/-- One goal is called, and where its reply says something, it is a step. -/
theorem of_goal {goal : Goal} (goals : s'.goals = (s.called goal).goals)
    (unused : s'.replies = (s.called goal).replies)
    (step : Exchange.IsWellFormed ⟨goal, s.reply⟩ →
      Step (s.book replies) ⟨s'.threads, s.log replies ++ [⟨goal, s.reply⟩]⟩) :
    Follows replies s s' := by
  intro served
  have logs : s'.log replies = s.log replies ++ [⟨goal, s.reply⟩] := by
    rw [← State.log_called served, State.log, goals, State.log]
  have servedAfter : s'.Served replies := by
    have called := State.served_called served goal
    unfold State.Served at called ⊢
    rw [unused, goals, called]
  refine ⟨servedAfter, logs ▸ List.prefix_append .., fun wellFormed => ?_⟩
  rw [logs] at wellFormed
  have books : s'.book replies = ⟨s'.threads, s.log replies ++ [⟨goal, s.reply⟩]⟩ := by
    rw [State.book, logs]
  rw [books]
  exact .single (step (wellFormed _ (by simp)))

end Follows

theorem stopCurrent_follows (n : Nat) (s : State) :
    Follows replies s ((stopCurrent n).result s).2 := by
  cases current : (s.threads.get n).current with
  | none =>
      rw [stopCurrent_of_none current]
      exact .refl s
  | some a =>
      obtain ⟨goals, unused⟩ := stopCurrent_calls current
      refine .of_goal goals unused fun ⟨message, said⟩ => ?_
      rw [stopCurrent_of_succeeded current said.succeeded]
      exact .ended current .stopped

theorem stopAll_follows (stopped : List Nat) (s : State) :
    Follows replies s ((stopAll stopped).result s).2 := by
  induction stopped generalizing s with
  | nil => exact .refl s
  | cons n rest ih =>
      exact Action.related_bind (R := Follows replies) Follows.trans (stopCurrent_follows n s)
        fun _ s' _ => ih s'

theorem consult_follows (n : Nat) (source : String) (s : State) :
    Follows replies s ((consult n source).result s).2 := by
  obtain ⟨warnings, state⟩ := consult_state (s := s) (n := n) source
  rw [state]
  exact .of_goal rfl rfl fun _ => .aside rfl

/-- A query is two steps: the current query ends, and another one starts or fails to. -/
theorem query_follows (roster : Roster s) (known : n < s.threads.size) (source : String) :
    Follows replies s ((query n source).result s).2 := by
  have stop : Follows replies s ((stopCurrent n).result s).2 := stopCurrent_follows n s
  rcases stopped : (stopCurrent n).result s with ⟨failure | _, s₁⟩ <;> rw [stopped] at stop
  · rwa [query_state_of_failure source stopped]
  · have idle := current_of_stopCurrent stopped
    have known₁ : n < s₁.threads.size := by
      have within : Within (s.threads.get n).session [n] [] s ((stopCurrent n).result s).2 :=
        StaysWithin.stopCurrent (List.mem_singleton_self n) s roster.owned (by simp)
      rw [stopped] at within
      rwa [within.threadCount]
    refine stop.trans ?_
    let goal : Goal := .start (s₁.threads.get n).session (s₁.nextQuery n) source
    have called : ((query n source).result s).2.goals = (s₁.called goal).goals ∧
        ((query n source).result s).2.replies = (s₁.called goal).replies := by
      rcases query_state source stopped with state | state <;> rw [state] <;>
        exact ⟨by simp [State.attempted, goal, State.holding], rfl⟩
    refine .of_goal called.1 called.2 fun wellFormed => ?_
    obtain ⟨message, said⟩ := wellFormed
    rcases says_start said with rfl | ⟨term, rfl⟩
    · rw [query_of_accepted stopped said]
      have entries : (((s₁.attempted n).called goal).holding n (some (s₁.nextQuery n))).threads =
          s₁.threads.set n ⟨(s₁.threads.get n).session, (s₁.threads.get n).started + 1,
            some (s₁.nextQuery n)⟩ := by
        simp [State.holding, State.attempted, State.setThread]
      rw [entries]
      exact .opened known₁ idle rfl said
    · rw [query_of_thrown stopped said]
      exact .refused known₁ idle rfl said

/-- The query whose answer was thrown is stopped at once. -/
theorem answer_thrown_follows {a : Alias} {term : Term}
    (current : (s.threads.get n).current = some a)
    (said : Says (.next a) s.reply (.thrown term)) :
    Follows replies s ((answer n).result s).2 := by
  let asked := s.called (.next a)
  have state : ((answer n).result s).2 = ((stopCurrent n).result asked).2 := by
    rw [answer_of_thrown current said, Action.result_bind]
    rcases (stopCurrent n).result asked with ⟨_ | _, s'⟩ <;> rfl
  have holds : (asked.threads.get n).current = some a := current
  rw [state]
  intro served
  have servedAsked : asked.Served replies := State.served_called served _
  have course := stopCurrent_follows n asked servedAsked
  have logs : ((stopCurrent n).result asked).2.log replies =
      s.log replies ++ [⟨.next a, s.reply⟩, ⟨.stop a, asked.reply⟩] := by
    rw [State.log, (stopCurrent_calls holds).1, ← State.log, State.log_called servedAsked,
      State.log_called served, List.append_assoc]
    rfl
  refine ⟨course.served, logs ▸ List.prefix_append .., fun wellFormed => .single ?_⟩
  obtain ⟨message, stopped⟩ := wellFormed ⟨.stop a, asked.reply⟩ (by rw [logs]; simp)
  have books : ((stopCurrent n).result asked).2.book replies = (s.book replies).enter n
      { s.threads.get n with current := none }
      [⟨.next a, s.reply⟩, ⟨.stop a, asked.reply⟩] := by
    rw [State.book, logs, stopCurrent_of_succeeded holds stopped.succeeded]
    rfl
  rw [books]
  exact .ended current (.thrown said)

theorem answer_follows (n : Nat) (s : State) : Follows replies s ((answer n).result s).2 := by
  cases current : (s.threads.get n).current with
  | none =>
      rw [answer_of_none current]
      exact .refl s
  | some a =>
      by_cases wellFormed : Exchange.IsWellFormed ⟨.next a, s.reply⟩
      · obtain ⟨message, said⟩ := wellFormed
        rcases says_next said with ⟨links, rfl⟩ | ⟨term, rfl⟩ | rfl
        · rw [answer_of_answer current said]
          have entries : (s.called (.next a)).threads = s.threads.set n (s.threads.get n) := by simp
          refine .of_goal rfl rfl fun _ => ?_
          rw [entries]
          exact .answered current ⟨rfl, links, said⟩
        · exact answer_thrown_follows current said
        · rw [answer_of_done current said]
          exact .of_goal rfl rfl fun _ => .ended current (.done said)
      · have malformed : ∀ s', s'.goals = (s.called (.next a)).goals →
            s'.replies = (s.called (.next a)).replies → Follows replies s s' :=
          fun s' goals unused => .of_goal goals unused fun said => absurd said wellFormed
        rcases answer_state current with state | state | state <;> rw [state]
        · exact malformed _ rfl rfl
        · exact malformed _ rfl rfl
        · exact (malformed _ rfl rfl).trans (stopCurrent_follows n _)

theorem createThread_follows (k : Nat) (s : State) :
    Follows replies s ((createThread k).result s).2 := by
  intro served
  exact ⟨served, List.prefix_rfl, fun _ => .single (.newThread k)⟩

theorem close_follows (k : Nat) (s : State) : Follows replies s ((close k).result s).2 := by
  cases closed : (s.sessions.get k).closed with
  | true =>
      rw [close_of_closed closed]
      exact .refl s
  | false =>
      have stop : Follows replies (s.closing k)
          ((stopAll (s.sessions.get k).threads).result (s.closing k)).2 :=
        stopAll_follows _ _
      have closing : Follows replies s (s.closing k) := .of_same rfl rfl rfl
      rcases stopped : (stopAll (s.sessions.get k).threads).result (s.closing k) with
        ⟨failure | _, s₁⟩ <;> rw [stopped] at stop
      · rw [close_of_failure closed stopped]
        exact closing.trans stop
      · rw [close_of_stopped closed stopped]
        have emptied : Follows replies s₁ (s₁.setSession k ⟨[], true⟩) := .of_same rfl rfl rfl
        exact closing.trans (stop.trans (emptied.trans (.of_goal rfl rfl fun _ => .aside rfl)))

/-- **Where all replies say something, an operation is a chain of steps.** -/
theorem operate_follows (op : Operation) (roster : Roster s) :
    Follows replies s (operate s op) := by
  unfold operate
  split
  case isFalse => exact .refl s
  case isTrue possible =>
    cases op with
    | setup =>
        show Follows replies s (setup.result s).2
        rcases setup_result (s := s) with given | given <;> rw [given]
        · exact .refl s
        · exact .of_same rfl (by simp [State.goals, Event.goal?]) rfl
    | createSession =>
        have added : Follows replies s { s with sessions := s.sessions.add ⟨[], false⟩ } :=
          .of_same rfl rfl rfl
        exact added.trans (createThread_follows _ _)
    | createThread k => exact createThread_follows k s
    | consult n source => exact consult_follows n source s
    | query n source => exact query_follows roster possible source
    | answer n => exact answer_follows n s
    | close k => exact close_follows k s

theorem run_follows (ops : List Operation) (roster : Roster s) :
    Follows replies s (run s ops) := by
  induction ops generalizing s with
  | nil => exact .refl s
  | cons op ops ih => exact (operate_follows op roster).trans (ih (operate_roster op roster))

/-! ## Closing -/

theorem stopCurrent_succeeds (served : s.Served replies)
    (wellFormed : ∀ e ∈ ((stopCurrent n).result s).2.log replies, e.IsWellFormed) :
    ∃ s₁, (stopCurrent n).result s = (.ok (), s₁) := by
  cases current : (s.threads.get n).current with
  | none => exact ⟨s, stopCurrent_of_none current⟩
  | some a =>
      have logs : ((stopCurrent n).result s).2.log replies =
          s.log replies ++ [⟨.stop a, s.reply⟩] := by
        rw [State.log, (stopCurrent_calls current).1, ← State.log, State.log_called served]
      obtain ⟨message, said⟩ := wellFormed ⟨.stop a, s.reply⟩ (by rw [logs]; simp)
      exact ⟨_, stopCurrent_of_succeeded current said.succeeded⟩

theorem stopAll_succeeds {stopped : List Nat} (served : s.Served replies)
    (wellFormed : ∀ e ∈ ((stopAll stopped).result s).2.log replies, e.IsWellFormed) :
    ∃ s₁, (stopAll stopped).result s = (.ok (), s₁) := by
  induction stopped generalizing s with
  | nil => exact ⟨s, rfl⟩
  | cons n rest ih =>
      have course := stopCurrent_follows n s served
      rw [stopAll, Action.result_bind] at wellFormed ⊢
      rcases first : (stopCurrent n).result s with ⟨failure | _, s₁⟩ <;>
        rw [first] at wellFormed course
      · obtain ⟨s₂, succeeds⟩ := stopCurrent_succeeds served (by rw [first]; exact wellFormed)
        rw [succeeds] at first
        cases first
      · exact ih course.served wellFormed

/-- A session that is closed for the first time ends all queries of its threads. -/
theorem close_ends (served : s.Served replies) (roster : Roster s)
    (ledger : Ledger (s.book replies)) (isOpen : (s.sessions.get k).closed = false)
    (wellFormed : ∀ e ∈ ((close k).result s).2.log replies, e.IsWellFormed) :
    ((close k).result s).1 = .ok () ∧ ∀ a later, a.session = k →
      OpenedBefore (((close k).result s).2.log replies) a later → Ended a later := by
  have ledgerAfter : Ledger (((close k).result s).2.book replies) :=
    ledger.steps ((close_follows k s served).steps wellFormed)
  have closing : (s.closing k).Served replies := served
  have within := roster.stopAll_within (k := k)
  obtain ⟨s₁, stopped⟩ : ∃ s₁,
      (stopAll (s.sessions.get k).threads).result (s.closing k) = (.ok (), s₁) := by
    rcases given : (stopAll (s.sessions.get k).threads).result (s.closing k) with
      ⟨failure | _, s₁⟩
    · rw [close_of_failure isOpen given] at wellFormed
      obtain ⟨s₂, succeeds⟩ := stopAll_succeeds closing (by rw [given]; exact wellFormed)
      rw [succeeds] at given
      cases given
    · exact ⟨s₁, rfl⟩
  rw [stopped] at within
  have servedStopped : s₁.Served replies := (within.log_prefix closing).1
  rw [close_of_stopped isOpen stopped] at wellFormed ledgerAfter ⊢
  constructor
  · have logs : ((s₁.setSession k ⟨[], true⟩).called (.dispose k)).log replies =
        s₁.log replies ++ [⟨.dispose k, s₁.reply⟩] :=
      State.log_called (s := s₁.setSession k ⟨[], true⟩) servedStopped (.dispose k)
    obtain ⟨message, said⟩ := wellFormed ⟨.dispose k, s₁.reply⟩ (by rw [logs]; simp)
    exact if_pos said.succeeded
  · intro a later session opened
    obtain ⟨e, member, names⟩ := opened.query?
    obtain ⟨known, home, -⟩ := ledgerAfter.named e member a names
    have listed : a.thread ∈ (s.sessions.get k).threads := by
      have homeBefore : (s.threads.get a.thread).session = k :=
        ((within.home a.thread).symm.trans home.symm).trans session
      have knownBefore : a.thread < s.threads.size := within.threadCount ▸ known
      have member := roster.listed a.thread knownBefore (by rw [homeBefore]; exact isOpen)
      rwa [homeBefore] at member
    have idle : (s₁.threads.get a.thread).current = none :=
      current_of_stopAll stopped a.thread listed
    exact ledgerAfter.ended_of_other opened (by
      show (s₁.threads.get a.thread).current ≠ some a
      simp [idle])

/-! ## Runs -/

/-- What a run of operations keeps to with the queries that it opens. -/
structure KeepsDiscipline (replies : List Reply) (ops : List Operation) : Prop where
  /-- A query that was opened gives answers and ends at most once; then it is not named again. -/
  life : ∀ a later, OpenedBefore ((run (.initial replies) ops).log replies) a later →
    InUse a later ∨ Ended a later
  /-- After every goal, a thread has at most one query that was opened and has not ended. -/
  single : ∀ log, log <+: (run (.initial replies) ops).log replies → Single log
  /-- After every operation, this query is the one that the thread holds. -/
  stored : ∀ earlier, earlier <+: ops → ∀ n a,
    ((run (.initial replies) earlier).threads.get n).current = some a ↔
      a.thread = n ∧ Unended ((run (.initial replies) earlier).log replies) a
  /-- A session is closed for the first time: this succeeds and ends the queries of its threads. -/
  closed : ∀ earlier k, earlier ++ [.close k] <+: ops →
    k < (run (.initial replies) earlier).sessions.size →
    ((run (.initial replies) earlier).sessions.get k).closed = false →
      ((engine.close k).result (run (.initial replies) earlier)).1 = .ok () ∧
        ∀ a later, a.session = k →
          OpenedBefore ((run (.initial replies) (earlier ++ [.close k])).log replies) a later →
            Ended a later

theorem Ledger.initial (replies : List Reply) :
    Ledger ((State.initial replies).book replies) where
  unused _ _ := rfl
  named _ member := absurd member List.not_mem_nil
  held _ _ holds := nomatch holds
  life _ _ opened := by
    obtain ⟨before, opening, parts, -⟩ := opened
    cases before <;> cases parts

theorem initial_served (replies : List Reply) : (State.initial replies).Served replies := rfl

theorem run_append (s : State) (ops more : List Operation) :
    run s (ops ++ more) = run (run s ops) more := List.foldl_append

/-- The log of a run goes on from the logs of its parts. -/
theorem log_run_mono {earlier ops : List Operation} (part : earlier <+: ops) :
    (run (.initial replies) earlier).log replies <+: (run (.initial replies) ops).log replies := by
  obtain ⟨rest, rfl⟩ := part
  rw [run_append]
  have roster : Roster (run (.initial replies) earlier) := run_roster earlier (.initial replies)
  have first := run_follows earlier (Roster.initial replies) (initial_served replies)
  exact (run_follows rest roster first.served).logged

/-- **Where every goal succeeds and every reply is well formed, queries are opened, used and
ended in order**, in every run of operations. -/
theorem run_keepsDiscipline (replies : List Reply) (ops : List Operation)
    (wellFormed : ∀ e ∈ (run (.initial replies) ops).log replies, e.IsWellFormed) :
    KeepsDiscipline replies ops := by
  have steps : ∀ earlier, earlier <+: ops → ReflTransGen Step ((State.initial replies).book replies)
      ((run (.initial replies) earlier).book replies) := by
    intro earlier part
    have course := run_follows earlier (Roster.initial replies) (initial_served replies)
    exact course.steps fun e member => wellFormed e ((log_run_mono part).subset member)
  have ledger : ∀ earlier, earlier <+: ops →
      Ledger ((run (.initial replies) earlier).book replies) :=
    fun earlier part => (Ledger.initial replies).steps (steps earlier part)
  have whole := ledger ops List.prefix_rfl
  refine ⟨fun a later opened => ?_, ?_, fun earlier part n a => (ledger earlier part).held_iff,
    fun earlier k part known isOpen => ?_⟩
  · rcases whole.life a later opened with ⟨-, uses⟩ | ⟨-, ended⟩
    · exact .inl uses
    · exact .inr ended
  · refine (Ledger.initial replies).steps_single (steps ops List.prefix_rfl) fun log empty => ?_
    rw [List.prefix_nil.mp empty]
    exact (Ledger.initial replies).single
  · have closing : run (.initial replies) (earlier ++ [.close k]) =
        ((close k).result (run (.initial replies) earlier)).2 := by
      rw [run_append]
      exact if_pos known
    have before : earlier <+: ops := (List.prefix_append ..).trans part
    have course := run_follows earlier (Roster.initial replies) (initial_served replies)
    rw [closing]
    refine close_ends course.served (run_roster earlier (.initial replies)) (ledger earlier before)
      isOpen fun e member => wellFormed e ((log_run_mono part).subset ?_)
    rwa [closing]

/-- Two threads of a session each open a query; an answer of the one is thrown, and the other is
still open when the session is closed. -/
def twoThreads : List Operation := [.createSession, .query 0 "p(X).", .answer 0, .createThread 0,
  .query 1 "q.", .answer 1, .close 0]

/-- The replies to `twoThreads`. -/
def twoThreadsReplies : List Reply := [
  ⟨true, [("R", .array [.string "ok"])]⟩,
  ⟨true, [("A", .array [.string "answer",
    .array [.array [.string "X", .array [.string "atom", .string "a"]]]])]⟩,
  ⟨true, [("R", .array [.string "ok"])]⟩,
  ⟨true, [("A", .array [.string "throw", .array [.string "atom", .string "oops"]])]⟩,
  ⟨true, []⟩, ⟨true, []⟩, ⟨true, []⟩]

theorem goals_twoThreads : (run (.initial twoThreadsReplies) twoThreads).goals = [
    .start 0 ⟨0, 0, 0⟩ "p(X).", .next ⟨0, 0, 0⟩, .start 0 ⟨0, 1, 0⟩ "q.", .next ⟨0, 1, 0⟩,
    .stop ⟨0, 1, 0⟩, .stop ⟨0, 0, 0⟩, .dispose 0] := by
  decide +kernel

theorem run_keepsDiscipline_twoThreads :
    (∀ e ∈ (run (.initial twoThreadsReplies) twoThreads).log twoThreadsReplies, e.IsWellFormed) ∧
      KeepsDiscipline twoThreadsReplies twoThreads := by
  have wellFormed : ∀ e ∈ (run (.initial twoThreadsReplies) twoThreads).log twoThreadsReplies,
      e.IsWellFormed := by
    rw [State.log, goals_twoThreads]
    simp only [twoThreadsReplies, exchanges, List.forall_mem_cons]
    exact ⟨⟨_, .started rfl⟩, ⟨_, .answered rfl rfl⟩, ⟨_, .started rfl⟩,
      ⟨_, .answerThrown rfl rfl⟩, ⟨_, .stopped⟩, ⟨_, .stopped⟩, ⟨_, .disposed⟩, by simp⟩
  exact ⟨wellFormed, run_keepsDiscipline twoThreadsReplies twoThreads wellFormed⟩

end WorkspacePolicy.Bridge
