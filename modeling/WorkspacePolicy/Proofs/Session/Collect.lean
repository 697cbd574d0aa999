/-
# Proofs.Session.Collect — a query is pulled up to its end or its first bad answer

An answer is *judged* by what it is turned into: the conversion of its bindings, or the error
that its thrown term describes (`Answer.judge`). Collecting a query on a thread that plays a
script judges the answers that the thread hears, one after the other (`collect_result`). The
first that is bad ends it, and it is the last that was asked for; otherwise one more request
finds the end. `requests` is the number of requests.

Draining is bounded by the number of pending deliveries, which are at least as many as the
answers, so that the bound is never met (`drain_heard`).
-/
import WorkspacePolicy.Proofs.Engine.Scripted
import WorkspacePolicy.Proofs.Except
import WorkspacePolicy.Session.AnswerSequence

namespace WorkspacePolicy

set_option autoImplicit false

variable {α : Type}

/-- What an answer is turned into. -/
def Answer.judge (convert : Bindings → Except Failure α) : Answer → Except Failure α
  | .bindings links => convert links
  | .thrown term => .error (.logic (LogicError.ofTerm term))

/-- The number of requests up to the end or the first answer that is bad. -/
def requests (judge : Answer → Except Failure α) : List Answer → Nat
  | [] => 1
  | answer :: rest =>
    match judge answer with
    | .ok _ => requests judge rest + 1
    | .error _ => 1

section

variable {judge : Answer → Except Failure α}

theorem requests_of_passes {answers : List Answer} (pass : ∀ a ∈ answers, Passes judge a) :
    requests judge answers = answers.length + 1 := by
  induction answers with
  | nil => rfl
  | cons answer rest ih =>
      obtain ⟨⟨value, good⟩, others⟩ := List.forall_mem_cons.mp pass
      rw [requests, good]
      simp only [ih others, List.length_cons]

theorem requests_of_bad {good later : List Answer} {bad : Answer} {failure : Failure}
    (pass : ∀ a ∈ good, Passes judge a) (fails : judge bad = .error failure) :
    requests judge (good ++ bad :: later) = good.length + 1 := by
  induction good with
  | nil =>
      rw [List.nil_append, requests, fails]
      rfl
  | cons answer rest ih =>
      obtain ⟨⟨value, passes⟩, others⟩ := List.forall_mem_cons.mp pass
      rw [List.cons_append, requests, passes]
      simp only [ih others, List.length_cons]

end

/-! ## Draining, one step at a time -/

theorem Drained.toExcept_cons (value : α) (d : Drained α) :
    (d.cons value).toExcept = d.toExcept.map (value :: ·) := by
  rcases d with ⟨items, _ | failure⟩ <;> rfl

namespace Pull

variable {σ τ : Type} {next : τ → StateM σ (Pull α × τ)} {q q' : τ} {s s' : σ}

/-- What is drained, without the sequence that is left. -/
def drained (run : StateM σ (Drained α × τ)) : Action σ (List α) :=
  ExceptT.mk do
    let (found, _) ← run
    return found.toExcept

theorem drained_result (run : StateM σ (Drained α × τ)) :
    (drained run).result s = ((run.run s).1.1.toExcept, (run.run s).2) := rfl

theorem drain_run (fuel : Nat) : (drain next (fuel + 1) q).run s =
    match (next q).run s with
    | ((.item value, q'), s') =>
      let rest := (drain next fuel q').run s'
      ((rest.1.1.cons value, rest.1.2), rest.2)
    | ((.done, q'), s') => ((⟨[], none⟩, q'), s')
    | ((.failed failure, q'), s') => ((⟨[], some failure⟩, q'), s') := by
  rw [drain, StateT.run_bind]
  rcases (next q).run s with ⟨⟨_ | _ | _, q'⟩, s'⟩ <;> rfl

theorem drainAll_run {remaining : τ → σ → Nat} : (drainAll next remaining q).run s =
    match (next q).run s with
    | ((.item value, q'), s') =>
      let rest := (drain next (remaining q' s' + 1) q').run s'
      ((rest.1.1.cons value, rest.1.2), rest.2)
    | ((.done, q'), s') => ((⟨[], none⟩, q'), s')
    | ((.failed failure, q'), s') => ((⟨[], some failure⟩, q'), s') := by
  rw [drainAll, StateT.run_bind]
  rcases (next q).run s with ⟨⟨_ | _ | _, q'⟩, s'⟩ <;> rfl

/-- Draining everything is draining with one step more than the bound after the first one. -/
theorem drainAll_run_eq_drain {remaining : τ → σ → Nat} {fuel : Nat}
    (enough : ∀ value q' s', (next q).run s = ((.item value, q'), s') →
      fuel = remaining q' s' + 1) :
    (drainAll next remaining q).run s = (drain next (fuel + 1) q).run s := by
  rw [drainAll_run, drain_run]
  rcases step : (next q).run s with ⟨⟨value | _ | failure, q'⟩, s'⟩
  · rw [enough value q' s' step]
  · rfl
  · rfl

end Pull

/-! ## Answers on a thread that plays a script -/

namespace AnswerSequence

/-- A step whose item is converted. -/
def convertedNext {σ : Type} (convert : Bindings → Except Failure α) (q : AnswerSequence σ) :
    StateM σ (Pull α × AnswerSequence σ) := do
  let (pull, q) ← next q
  return (pull.convert convert, q)

theorem collect_eq {σ : Type} (q : AnswerSequence σ) (convert : Bindings → Except Failure α) :
    q.collect convert = Pull.drained (Pull.drainAll (convertedNext convert) remaining q) := rfl

end AnswerSequence

namespace Scripted

open AnswerSequence

variable {script : Script} {main : Nat} {s : State} {convert : Bindings → Except Failure α}

theorem next_running_run : (next (.running (thread script main))).run s =
    match firstOf (heard (s.pending.get main)) with
    | .ok (some links) => ((.item links, .running (thread script main)), s.pulled main 1)
    | .ok none => ((.done, .finished), s.pulled main 1)
    | .error failure => ((.failed failure, .finished), s.pulled main 1) := by
  rw [next, ask, StateT.run_bind, Action.run_outcome, nextAnswer_result]
  rcases firstOf (heard (s.pending.get main)) with _ | _ | _ <;> rfl

/-- A step on a thread with an answer to give. -/
theorem next_of_bindings (script : Script) {links : Bindings} {rest : List Answer}
    (hears : heard (s.pending.get main) = .bindings links :: rest) :
    (next (.running (thread script main))).run s =
        ((.item links, .running (thread script main)), s.pulled main 1) ∧
      heard ((s.pulled main 1).pending.get main) = rest := by
  refine ⟨?_, ?_⟩
  · rw [next_running_run, hears]
    rfl
  · rw [State.get_pending_pulled]
    exact heard_drop_one hears

theorem next_of_end (hears : heard (s.pending.get main) = []) :
    (next (.running (thread script main))).run s = ((.done, .finished), s.pulled main 1) := by
  rw [next_running_run, hears]
  rfl

theorem next_of_thrown {term : Term} {rest : List Answer}
    (hears : heard (s.pending.get main) = .thrown term :: rest) :
    (next (.running (thread script main))).run s =
      ((.failed (.logic (LogicError.ofTerm term)), .finished), s.pulled main 1) := by
  rw [next_running_run, hears]
  rfl

theorem convertedNext_run (q : AnswerSequence State) :
    (convertedNext convert q).run s =
      (((((next q).run s).1.1.convert convert), ((next q).run s).1.2), ((next q).run s).2) := rfl

theorem convertedNext_end (silent : heard (s.pending.get main) = []) :
    (convertedNext convert (.running (thread script main))).run s =
      ((.done, .finished), s.pulled main 1) := by
  rw [convertedNext_run, next_of_end silent]
  rfl

theorem convertedNext_good {answer : Answer} {rest : List Answer} {value : α}
    (hears : heard (s.pending.get main) = answer :: rest)
    (good : answer.judge convert = .ok value) :
    (convertedNext convert (.running (thread script main))).run s =
      ((.item value, .running (thread script main)), s.pulled main 1) := by
  rw [convertedNext_run, next_running_run, hears]
  cases answer with
  | bindings links =>
      simp only [Answer.judge] at good
      simp only [firstOf, Pull.convert, good]
  | thrown term => exact absurd good (by simp [Answer.judge])

theorem convertedNext_bad (script : Script) {answer : Answer} {rest : List Answer}
    {failure : Failure} (hears : heard (s.pending.get main) = answer :: rest)
    (bad : answer.judge convert = .error failure) :
    ∃ q, (convertedNext convert (.running (thread script main))).run s =
      ((.failed failure, q), s.pulled main 1) := by
  rw [convertedNext_run, next_running_run, hears]
  cases answer with
  | bindings links =>
      simp only [Answer.judge] at bad
      exact ⟨.running (thread script main), by simp only [firstOf, Pull.convert, bad]⟩
  | thrown term =>
      obtain rfl := Except.error.inj bad
      exact ⟨.finished, rfl⟩

/-- The bound of a drain has to leave one step for the end. -/
theorem drain_heard {answers : List Answer} {fuel : Nat}
    (hears : heard (s.pending.get main) = answers) (enough : answers.length ≤ fuel) :
    (Pull.drained (Pull.drain (convertedNext convert) (fuel + 1)
        (.running (thread script main)))).result s =
      (answers.mapM (Answer.judge convert),
        s.pulled main (requests (Answer.judge convert) answers)) := by
  induction answers generalizing fuel s with
  | nil =>
      rw [Pull.drained_result, Pull.drain_run, convertedNext_end hears]
      rfl
  | cons answer rest ih =>
      rw [Pull.drained_result, Pull.drain_run, List.mapM_cons, requests]
      cases judged : answer.judge convert with
      | error failure =>
          obtain ⟨q, step⟩ := convertedNext_bad script hears judged
          rw [step]
          rfl
      | ok value =>
          have others : heard ((s.pulled main 1).pending.get main) = rest := by
            rw [State.get_pending_pulled]
            exact heard_drop_one hears
          rw [List.length_cons] at enough
          obtain ⟨fuel, rfl⟩ : ∃ steps, fuel = steps + 1 := ⟨fuel - 1, by omega⟩
          have more := ih others (Nat.le_of_succ_le_succ enough)
          rw [Pull.drained_result, Prod.mk.injEq] at more
          rw [convertedNext_good hears judged]
          simp only [Drained.toExcept_cons, more.1, more.2, State.pulled_pulled, Nat.add_comm 1]
          cases rest.mapM (Answer.judge convert) <;> rfl

/-- A query that is accepted begins with the first of its answers. -/
theorem next_fresh_run (query : String) : (next (.fresh (thread script main) query)).run s =
    match script.acknowledgement query with
    | .accepted => (next (.running (thread script main))).run (s.queried script main query)
    | .refused term =>
      ((.failed (.logic (LogicError.ofTerm term)), .finished), s.queried script main query) := by
  rw [next, StateT.run_bind, Action.run_outcome, startQuery_result]
  cases script.acknowledgement query <;> rfl

theorem drainAll_heard :
    (Pull.drained (Pull.drainAll (convertedNext convert) remaining
        (.running (thread script main)))).result s =
      ((heard (s.pending.get main)).mapM (Answer.judge convert),
        s.pulled main (requests (Answer.judge convert) (heard (s.pending.get main)))) := by
  -- One delivery is gone after the first step, and the bound is taken there.
  have bound : ∀ value q' s',
      (convertedNext convert (.running (thread script main))).run s = ((.item value, q'), s') →
        ((s.pending.get main).drop 1).length + 1 = remaining q' s' + 1 := by
    intro value q' s' step
    cases hears : heard (s.pending.get main) with
    | nil =>
        rw [convertedNext_end hears] at step
        cases step
    | cons answer rest =>
        cases judged : answer.judge convert with
        | error failure =>
            obtain ⟨q, bad⟩ := convertedNext_bad script hears judged
            rw [bad] at step
            cases step
        | ok first =>
            rw [convertedNext_good hears judged] at step
            cases step
            rw [← State.get_pending_pulled]
            rfl
  rw [Pull.drained_result, Pull.drainAll_run_eq_drain bound, ← Pull.drained_result]
  have bounded := length_heard_le (s.pending.get main)
  refine drain_heard rfl ?_
  rw [List.length_drop]
  omega

/-- **Collecting a query judges the answers that are heard, and asks for no more than that.** -/
theorem collect_result (query : String) :
    ((AnswerSequence.fresh (thread script main) query).collect convert).result s =
      match script.acknowledgement query with
      | .refused term =>
        (.error (.logic (LogicError.ofTerm term)), s.queried script main query)
      | .accepted =>
        let answers := heard (script.pendingFor query (s.pending.get main))
        (answers.mapM (Answer.judge convert),
          (s.queried script main query).pulled main (requests (Answer.judge convert) answers)) := by
  rw [collect_eq, Pull.drained_result, Pull.drainAll_run, convertedNext_run, next_fresh_run]
  cases taken : script.acknowledgement query with
  | refused term => rfl
  | accepted =>
      have fromStart := @drainAll_heard _ script main (s.queried script main query) convert
      rw [Pull.drained_result, Pull.drainAll_run, State.get_pending_queried] at fromStart
      exact fromStart

theorem collect_of_refused {query : String} {term : Term}
    (refused : script.acknowledgement query = .refused term) :
    ((AnswerSequence.fresh (thread script main) query).collect convert).result s =
      (.error (.logic (LogicError.ofTerm term)), s.queried script main query) := by
  rw [collect_result, refused]

theorem collect_of_bad {query : String} {good later : List Answer} {bad : Answer}
    {failure : Failure} (accepted : script.acknowledgement query = .accepted)
    (hears : heard (script.pendingFor query (s.pending.get main)) = good ++ bad :: later)
    (pass : ∀ a ∈ good, Passes (Answer.judge convert) a)
    (fails : bad.judge convert = .error failure) :
    ((AnswerSequence.fresh (thread script main) query).collect convert).result s =
      (.error failure, (s.queried script main query).pulled main (good.length + 1)) := by
  rw [collect_result, accepted]
  simp only [hears, mapM_of_bad pass fails, requests_of_bad pass fails]

theorem collect_of_passes {query : String} {answers : List Answer} {values : List α}
    (accepted : script.acknowledgement query = .accepted)
    (hears : heard (script.pendingFor query (s.pending.get main)) = answers)
    (given : answers.mapM (Answer.judge convert) = .ok values) :
    ((AnswerSequence.fresh (thread script main) query).collect convert).result s =
      (.ok values, (s.queried script main query).pulled main (answers.length + 1)) := by
  rw [collect_result, accepted]
  simp only [hears, given, requests_of_passes (passes_of_mapM given)]

end Scripted

end WorkspacePolicy
