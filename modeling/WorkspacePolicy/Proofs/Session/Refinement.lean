/-
# Proofs.Session.Refinement — a thread behind the bridge and one that holds its answers

A thread gets one query after the other. Each has a fate: it is refused, or it has some answers,
after which it ends or throws a term; and it is asked some number of times before the next one
takes its place (`Episode`). A thread behind the bridge whose other side replies with the
encodings of all this, and a thread that plays it from a script, show the same: the answers in
their order, then the end or the error (`observe_bridge_eq_scripted`).

What they show of an episode is a function of its fate and the number of requests
(`Episode.seen`), whatever was left open before.
-/
import WorkspacePolicy.Proofs.Engine.Bridge.Encoding
import WorkspacePolicy.Proofs.Engine.Bridge.Exchange
import WorkspacePolicy.Proofs.Entries
import WorkspacePolicy.Proofs.Session.Bridge

namespace WorkspacePolicy

set_option autoImplicit false

/-! ## Episodes -/

/-- Bindings of different variables. -/
abbrev DistinctBindings := { links : Bindings // (links.map Prod.fst).Nodup }

/-- What comes of a query. -/
inductive Fate where
  | refused (term : Term)
  | answered (answers : List DistinctBindings) (thrown : Option Term)

/-- A query with what comes of it and how often it is asked. -/
structure Episode where
  query : String
  fate : Fate
  pulls : Nat

/-- The first steps of a sequence that ends after some others. -/
def firstPulls : Nat → List (Pull Bindings) → List (Pull Bindings)
  | 0, _ => []
  | k + 1, [] => .done :: firstPulls k []
  | k + 1, pull :: rest => pull :: firstPulls k rest

/-- The steps of a query that was accepted, before the end. -/
def stepsOf (answers : List DistinctBindings) (thrown : Option Term) : List (Pull Bindings) :=
  answers.map (fun links => .item links.val) ++
    thrown.toList.map (fun term => .failed (.logic (LogicError.ofTerm term)))

/-- What is seen of an episode. -/
def Episode.seen (e : Episode) : List (Pull Bindings) :=
  match e.fate with
  | .refused term => firstPulls e.pulls [.failed (.logic (LogicError.ofTerm term))]
  | .answered answers thrown => firstPulls e.pulls (stepsOf answers thrown)

variable {σ : Type}

/-- Some steps of a sequence. -/
def AnswerSequence.pulls : Nat → AnswerSequence σ → StateM σ (List (Pull Bindings))
  | 0, _ => return []
  | k + 1, q => do
    let (pull, q) ← q.next
    return pull :: (← pulls k q)

/-- What a thread shows of some episodes; which thread it is may depend on the episode. -/
def observe (thread : Episode → Thread σ) : List Episode → StateM σ (List (List (Pull Bindings)))
  | [] => return []
  | e :: rest => do
    let pulls ← AnswerSequence.pulls e.pulls (.fresh (thread e) e.query)
    return pulls :: (← observe thread rest)

namespace AnswerSequence

theorem pulls_succ {k : Nat} {q q' : AnswerSequence σ} {s s' : σ} {pull : Pull Bindings}
    (step : q.next.run s = ((pull, q'), s')) : (pulls (k + 1) q).run s =
      (pull :: ((pulls k q').run s').1, ((pulls k q').run s').2) := by
  rw [pulls, StateT.run_bind, step]
  rfl

theorem pulls_finished (k : Nat) (s : σ) :
    (pulls k (.finished : AnswerSequence σ)).run s = (firstPulls k [], s) := by
  induction k with
  | zero => rfl
  | succ k ih =>
      have step : (finished : AnswerSequence σ).next.run s = ((.done, .finished), s) := rfl
      rw [pulls_succ step, ih]
      rfl

section

variable {t : Thread σ} {query : String} {s s' : σ} (k : Nat)

/-- A query that is refused is seen to fail and then to have ended. -/
theorem pulls_fresh_of_refused {failure : Failure}
    (started : (t.startQuery query).result s = (.error failure, s')) :
    (pulls (k + 1) (.fresh t query)).run s = (firstPulls (k + 1) [.failed failure], s') := by
  have step : (next (.fresh t query)).run s = ((.failed failure, .finished), s') := by
    rw [next_fresh_eq, started]
  rw [pulls_succ step, pulls_finished]
  rfl

/-- A query that was accepted shows what its thread shows. -/
theorem pulls_fresh_of_accepted (started : (t.startQuery query).result s = (.ok (), s')) :
    (pulls (k + 1) (.fresh t query)).run s = (pulls (k + 1) (.running t)).run s' := by
  have step : (next (.fresh t query)).run s = (next (.running t)).run s' := by
    rw [next_fresh_eq, started]
    rfl
  rcases stepped : (next (.running t)).run s' with ⟨⟨pull, q⟩, s''⟩
  rw [pulls_succ (step.trans stepped), pulls_succ stepped]

end

end AnswerSequence

theorem observe_cons (thread : Episode → Thread σ) (e : Episode) (rest : List Episode) (s : σ) :
    (observe thread (e :: rest)).run s =
      let pulls := (AnswerSequence.pulls e.pulls (.fresh (thread e) e.query)).run s
      let others := (observe thread rest).run pulls.2
      (pulls.1 :: others.1, others.2) := rfl

open AnswerSequence

/-! ## The thread behind the bridge -/

namespace Bridge

namespace Reply

/-- A query was started. -/
def accepted : Reply := ⟨true, [("R", .array [.string "ok"])]⟩

/-- A query was refused. -/
def refused (term : Term) : Reply := ⟨true, [("R", .array [.string "throw", encode term])]⟩

/-- A query has an answer. -/
def answer (links : Bindings) : Reply :=
  ⟨true, [("A", .array [.string "answer", .array (links.map encodeBinding)])]⟩

/-- A query has no further answer. -/
def done : Reply := ⟨true, [("A", .array [.string "done"])]⟩

/-- A query threw a term. -/
def thrown (term : Term) : Reply := ⟨true, [("A", .array [.string "throw", encode term])]⟩

/-- A query was stopped. -/
def stopped : Reply := ⟨true, []⟩

end Reply

/-- The replies to some requests for answers. A query that threw is stopped. -/
def answerReplies : Nat → List DistinctBindings → Option Term → List Reply
  | 0, _, _ => []
  | k + 1, links :: rest, thrown => .answer links.val :: answerReplies k rest thrown
  | _ + 1, [], none => [.done]
  | _ + 1, [], some term => [.thrown term, .stopped]

/-- The replies in an episode, where the query before is still open or not. A query that is
never asked is not even started. -/
def episodeReplies (isOpen : Bool) (e : Episode) : List Reply :=
  if e.pulls = 0 then [] else
    (if isOpen then [.stopped] else []) ++
      match e.fate with
      | .refused term => [.refused term]
      | .answered answers thrown => .accepted :: answerReplies e.pulls answers thrown

/-- A query is open after an episode. -/
def staysOpen (isOpen : Bool) (e : Episode) : Bool :=
  if e.pulls = 0 then isOpen else
    match e.fate with
    | .refused _ => false
    | .answered answers _ => e.pulls ≤ answers.length

/-- The replies in some episodes. -/
def repliesOf : Bool → List Episode → List Reply
  | _, [] => []
  | isOpen, e :: rest => episodeReplies isOpen e ++ repliesOf (staysOpen isOpen e) rest

variable {s s₁ : State} {n : Nat} {rest : List Reply}

theorem says_accepted {session : Nat} {a : Alias} {source : String} :
    Says (.start session a source) .accepted .accepted := .started rfl

theorem says_refused {session : Nat} {a : Alias} {source : String} (term : Term) :
    Says (.start session a source) (.refused term) (.thrown term) :=
  .startThrown rfl (decode_encode term)

/-- Different variables come back as they are. -/
theorem says_answer {a : Alias} (links : DistinctBindings) :
    Says (.next a) (.answer links.val) (.answer links.val) := by
  have said : Says (.next a) (.answer links.val) (.answer (Entries.ofList links.val)) :=
    .answered rfl (decodeBindings_encode links.val)
  rwa [Entries.ofList_eq_self links.property] at said

theorem says_done {a : Alias} : Says (.next a) .done .done := .ended rfl

theorem says_thrown {a : Alias} (term : Term) : Says (.next a) (.thrown term) (.thrown term) :=
  .answerThrown rfl (decode_encode term)

theorem State.reply_of_replies {reply : Reply} (given : s.replies = reply :: rest) :
    s.reply = reply := by
  rw [State.reply, given]
  rfl

theorem State.replies_called {reply : Reply} (given : s.replies = reply :: rest) (goal : Goal) :
    (s.called goal).replies = rest := by
  rw [State.called, given]
  rfl

theorem next_of_answer {found : Option Answer} {s' : State}
    (taken : (answer n).result s = (.ok { first := found }, s')) :
    (running (thread n)).next.run s =
      (AnswerSequence.given (thread n) (Thread.answered found), s') :=
  next_running_of_answer (t := thread n) taken

theorem startQuery_of_query {source : String} {given : Acknowledgement} {s' : State}
    (taken : (query n source).result s = (.ok { first := given }, s')) :
    ((thread n).startQuery source).result s = (Thread.settled given, s') :=
  Thread.startQuery_of_query (t := thread n) taken

/-- A thread with an open query shows what is left of it. -/
theorem pulls_running {a : Alias} {k : Nat} {answers : List DistinctBindings}
    {thrown : Option Term} (current : (s.threads.get n).current = some a)
    (given : s.replies = answerReplies k answers thrown ++ rest) :
    ∃ s', (pulls k (.running (thread n))).run s = (firstPulls k (stepsOf answers thrown), s') ∧
      s'.replies = rest ∧ (s'.threads.get n).current.isSome = decide (k ≤ answers.length) := by
  induction k generalizing s answers with
  | zero => exact ⟨s, rfl, given, by simp [current]⟩
  | succ k ih =>
      rcases answers with _ | ⟨links, more⟩
      · rcases thrown with _ | term
        · have reply := State.reply_of_replies given
          have ended := answer_of_done current (reply ▸ says_done)
          have step : (running (thread n)).next.run s =
              ((.done, .finished), (s.called (.next a)).holding n none) := by
            rw [next_of_answer ended]
            rfl
          rw [pulls_succ step, pulls_finished]
          refine ⟨_, rfl, State.replies_called given (.next a), ?_⟩
          simp [State.holding, State.setThread]
        · have reply := State.reply_of_replies given
          have replies := State.replies_called given (.next a)
          have stopped : (stopCurrent n).result (s.called (.next a)) =
              (.ok (), ((s.called (.next a)).called (.stop a)).holding n none) :=
            stopCurrent_of_succeeded current (by rw [State.reply_of_replies replies]; rfl)
          have threw := answer_of_thrown current (reply ▸ says_thrown term)
          rw [Action.result_bind_ok _ stopped] at threw
          have step : (running (thread n)).next.run s =
              ((.failed (.logic (LogicError.ofTerm term)), .finished),
                ((s.called (.next a)).called (.stop a)).holding n none) := by
            rw [next_of_answer threw]
            rfl
          rw [pulls_succ step, pulls_finished]
          refine ⟨_, rfl, State.replies_called replies (.stop a), ?_⟩
          simp [State.holding, State.setThread]
      · have reply := State.reply_of_replies given
        have answered := answer_of_answer current (reply ▸ says_answer links)
        have step : (running (thread n)).next.run s =
            ((.item links.val, .running (thread n)), s.called (.next a)) := by
          rw [next_of_answer answered]
          rfl
        obtain ⟨s', run, replies, isOpen⟩ := ih (s := s.called (.next a)) current
          (State.replies_called given (.next a))
        rw [pulls_succ step, run]
        exact ⟨s', rfl, replies, by simpa using isOpen⟩

/-- The query that is open is stopped before the next one is started. -/
theorem stopCurrent_of_replies
    (given : s.replies =
      (if (s.threads.get n).current.isSome then [Reply.stopped] else []) ++ rest) :
    ∃ s₁, (stopCurrent n).result s = (.ok (), s₁) ∧ s₁.replies = rest := by
  cases current : (s.threads.get n).current with
  | none =>
      rw [current] at given
      exact ⟨s, stopCurrent_of_none current, given⟩
  | some a =>
      rw [current] at given
      have succeeded : s.reply.succeeded := by rw [State.reply_of_replies given]; rfl
      exact ⟨_, stopCurrent_of_succeeded current succeeded,
        State.replies_called given (.stop a)⟩

/-- **A thread behind the bridge shows an episode**, and what is left open is known after it. -/
theorem pulls_episode (e : Episode)
    (given : s.replies = episodeReplies (s.threads.get n).current.isSome e ++ rest) :
    ∃ s', (pulls e.pulls (.fresh (thread n) e.query)).run s = (e.seen, s') ∧ s'.replies = rest ∧
      (s'.threads.get n).current.isSome = staysOpen (s.threads.get n).current.isSome e := by
  obtain ⟨query, fate, k⟩ := e
  cases k with
  | zero =>
      refine ⟨s, ?_, given, rfl⟩
      cases fate <;> rfl
  | succ k =>
      simp only [episodeReplies, Nat.succ_ne_zero, if_false, List.append_assoc] at given
      obtain ⟨s₁, stopped, replies⟩ := stopCurrent_of_replies given
      cases fate with
      | refused term =>
          have reply : s₁.reply = .refused term := State.reply_of_replies replies
          have said : Says (.start (s₁.threads.get n).session (s₁.nextQuery n) query) s₁.reply
              (.thrown term) := reply ▸ says_refused term
          have idle : (s₁.threads.get n).current = none := current_of_stopCurrent stopped
          refine ⟨_, pulls_fresh_of_refused k (startQuery_of_query (query_of_thrown stopped said)),
            State.replies_called (s := s₁.attempted n) replies _, ?_⟩
          simp [State.attempted, State.setThread, idle, staysOpen]
      | answered answers thrown =>
          have reply : s₁.reply = .accepted := State.reply_of_replies replies
          have said : Says (.start (s₁.threads.get n).session (s₁.nextQuery n) query) s₁.reply
              .accepted := reply ▸ says_accepted
          have started := startQuery_of_query (query_of_accepted stopped said)
          let goal : Goal := .start (s₁.threads.get n).session (s₁.nextQuery n) query
          let s₂ := ((s₁.attempted n).called goal).holding n (some (s₁.nextQuery n))
          have current : (s₂.threads.get n).current = some (s₁.nextQuery n) := by
            simp [s₂, State.holding, State.setThread]
          have unused : s₂.replies = answerReplies (k + 1) answers thrown ++ rest :=
            State.replies_called (s := s₁.attempted n) replies goal
          obtain ⟨s', run, left, isOpen⟩ := pulls_running current unused
          exact ⟨s', (pulls_fresh_of_accepted k started).trans run, left, isOpen⟩

/-- A thread behind the bridge shows its episodes, one after the other. -/
theorem observe_bridge (episodes : List Episode)
    (given : s.replies = repliesOf (s.threads.get n).current.isSome episodes ++ rest) :
    ((observe (fun _ => thread n) episodes).run s).1 = episodes.map Episode.seen := by
  induction episodes generalizing s with
  | nil => rfl
  | cons e later ih =>
      rw [repliesOf, List.append_assoc] at given
      obtain ⟨s', run, left, isOpen⟩ := pulls_episode e given
      rw [observe_cons, run]
      simp only [List.map_cons]
      rw [ih (by rw [left, isOpen])]

end Bridge

/-! ## The thread that plays a script -/

/-- The answers of a query that was accepted, with what is thrown after them. -/
def answersOf (answers : List DistinctBindings) (thrown : Option Term) : List Answer :=
  answers.map (fun links => .bindings links.val) ++ thrown.toList.map .thrown

/-- The script plays the episode: it refuses the query, or the answers that are pending after it
are those of the episode. -/
def Episode.PlayedBy (e : Episode) (script : Script) : Prop :=
  match e.fate with
  | .refused term => script.acknowledgement e.query = .refused term
  | .answered answers thrown => script.queryFor? e.query = none ∧
    Scripted.heard (script.answersFor e.query) = answersOf answers thrown

/-- A script that plays an episode. -/
def Episode.script (e : Episode) : Script :=
  match e.fate with
  | .refused term => { queries := [(e.query, { first := .refused term })] }
  | .answered answers thrown =>
    { answers :=
        [(e.query, (answersOf answers thrown).map fun answer => { first := some answer })] }

theorem Episode.playedBy_script (e : Episode) : e.PlayedBy e.script := by
  obtain ⟨query, fate, pulls⟩ := e
  cases fate with
  | refused term => simp [PlayedBy, script, Script.acknowledgement, Script.queryFor?]
  | answered answers thrown =>
      have pending : (Episode.script ⟨query, .answered answers thrown, pulls⟩).answersFor query =
          (answersOf answers thrown).map fun answer => { first := some answer } := by
        simp [script, Script.answersFor]
      exact ⟨rfl, by rw [pending, Scripted.heard_map]⟩

namespace Scripted

variable {script : Script} {m : Nat} {s : State}

/-- A thread shows the answers that it still has to give. -/
theorem pulls_running (k : Nat) {answers : List DistinctBindings} {thrown : Option Term}
    (hears : heard (s.pending.get m) = answersOf answers thrown) :
    ((pulls k (.running (thread script m))).run s).1 = firstPulls k (stepsOf answers thrown) := by
  induction k generalizing s answers with
  | zero => rfl
  | succ k ih =>
      rcases answers with _ | ⟨links, more⟩
      · rcases thrown with _ | term
        · rw [pulls_succ (next_of_end hears), pulls_finished]
          rfl
        · rw [pulls_succ (next_of_thrown hears), pulls_finished]
          rfl
      · obtain ⟨step, others⟩ := next_of_bindings script hears
        rw [pulls_succ step, ih others]
        rfl

/-- **A thread that plays an episode shows it.** -/
theorem pulls_episode {e : Episode} (plays : e.PlayedBy script) :
    ((pulls e.pulls (.fresh (thread script m) e.query)).run s).1 = e.seen := by
  obtain ⟨query, fate, k⟩ := e
  cases k with
  | zero => cases fate <;> rfl
  | succ k =>
      cases fate with
      | refused term =>
          have refused : script.acknowledgement query = .refused term := plays
          have started : ((thread script m).startQuery query).result s =
              (.error (.logic (LogicError.ofTerm term)), s.queried script m query) := by
            rw [startQuery_result, refused]
            rfl
          rw [pulls_fresh_of_refused k started]
          rfl
      | answered answers thrown =>
          obtain ⟨taken, hears⟩ : script.queryFor? query = none ∧ _ := plays
          have started : ((thread script m).startQuery query).result s =
              (.ok (), s.queried script m query) := by
            rw [startQuery_result, Script.acknowledgement, taken]
            rfl
          rw [pulls_fresh_of_accepted k started]
          refine pulls_running (k + 1) ?_
          rw [State.get_pending_queried, Script.pendingFor, taken]
          exact hears

theorem observe_scripted {episodes : List Episode} {script : Episode → Script}
    (plays : ∀ e ∈ episodes, e.PlayedBy (script e)) :
    ((observe (fun e => thread (script e) m) episodes).run s).1 = episodes.map Episode.seen := by
  induction episodes generalizing s with
  | nil => rfl
  | cons e later ih =>
      obtain ⟨first, others⟩ := List.forall_mem_cons.mp plays
      rw [observe_cons, List.map_cons]
      simp only [pulls_episode first, ih others]

end Scripted

/-! ## Both threads -/

/-- **A thread behind the bridge shows what a thread shows that holds the same answers**: the same
bindings in the same order, the same ends and the same errors, for any episodes on it, and they
are those of the episodes. The thread may have been used before, so that a query of it may be
open. -/
theorem observe_bridge_eq_scripted {episodes : List Episode} {n : Nat} {s : Bridge.State}
    {rest : List Bridge.Reply}
    (given : s.replies =
      Bridge.repliesOf (s.threads.get n).current.isSome episodes ++ rest)
    {script : Episode → Script} (plays : ∀ e ∈ episodes, e.PlayedBy (script e)) (m : Nat)
    (p : Scripted.State) :
    ((observe (fun _ => Bridge.thread n) episodes).run s).1 =
        ((observe (fun e => Scripted.thread (script e) m) episodes).run p).1 ∧
      ((observe (fun _ => Bridge.thread n) episodes).run s).1 = episodes.map Episode.seen ∧
        ((observe (fun e => Scripted.thread (script e) m) episodes).run p).1 =
          episodes.map Episode.seen := by
  have bridge := Bridge.observe_bridge episodes given
  have scripted := Scripted.observe_scripted (m := m) (s := p) plays
  exact ⟨bridge.trans scripted.symm, bridge, scripted⟩

/-- A query that is left open, one that is refused and one that throws. -/
def threeEpisodes : List Episode := [
  ⟨"p(X).", .answered [⟨[("X", .atom "a")], by decide⟩, ⟨[("X", .atom "b")], by decide⟩] none, 1⟩,
  ⟨"q(", .refused (.atom "syntax"), 2⟩,
  ⟨"r(X, Y).", .answered [⟨[("X", .compound "f" [.string "s"]), ("Y", .variable "_1")],
    by decide⟩] (some (.atom "oops")), 3⟩]

/-- A thread whose other side plays `threeEpisodes`. -/
def threeEpisodesState : Bridge.State :=
  (Bridge.createSession.result (.initial (Bridge.repliesOf false threeEpisodes))).2

theorem observe_threeEpisodes :
    ((observe (fun _ => Bridge.thread 0) threeEpisodes).run threeEpisodesState).1 =
        ((observe (fun e => Scripted.thread e.script 0) threeEpisodes).run .initial).1 ∧
      ((observe (fun _ => Bridge.thread 0) threeEpisodes).run threeEpisodesState).1 =
          threeEpisodes.map Episode.seen ∧
        ((observe (fun e => Scripted.thread e.script 0) threeEpisodes).run .initial).1 =
          threeEpisodes.map Episode.seen := by
  have given : threeEpisodesState.replies =
      Bridge.repliesOf (threeEpisodesState.threads.get 0).current.isSome threeEpisodes ++ [] :=
    (List.append_nil _).symm
  exact observe_bridge_eq_scripted given (fun e _ => e.playedBy_script) 0 .initial

end WorkspacePolicy
