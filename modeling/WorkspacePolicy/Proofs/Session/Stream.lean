/-
# Proofs.Session.Stream — what a sequence yields, step by step

A sequence yields some items and then the end or a failure (`Pull.Yields`); after that it gives the
end and asks for nothing. What it yields settles each of its steps, however many are made
(`steps_of_yields`), and what a drain finds (`drain_of_yields`).

A query on a thread that plays a script yields the bindings before the first term that is thrown,
and then fails with the error of that term, or ends (`Answer.course`, `yields_fresh`). The engine
gets the query with the first step, and one request for each step up to the last
(`trace_steps`).
-/
import WorkspacePolicy.Proofs.Session.Steps

namespace WorkspacePolicy

set_option autoImplicit false

variable {σ τ α : Type}

/-! ## Steps -/

/-- The first steps of a sequence of which this is drained. -/
def Drained.pulls (d : Drained α) (k : Nat) : List (Pull α) :=
  (d.items.map Pull.item ++ d.failure.toList.map Pull.failed ++ List.replicate k Pull.done).take k

namespace Drained

theorem take_append_replicate (pulls : List (Pull α)) (k : Nat) :
    (pulls ++ List.replicate (k + 1) Pull.done).take k =
      (pulls ++ List.replicate k Pull.done).take k := by
  rw [List.replicate_succ', ← List.append_assoc, List.take_append_of_le_length (by simp)]

theorem pulls_cons (d : Drained α) (value : α) (k : Nat) :
    (d.cons value).pulls (k + 1) = .item value :: d.pulls k := by
  have shifted := take_append_replicate
    (d.items.map Pull.item ++ d.failure.toList.map Pull.failed) k
  exact congrArg (Pull.item value :: ·) shifted

theorem pulls_failed (failure : Failure) (k : Nat) :
    (⟨[], some failure⟩ : Drained α).pulls (k + 1) = .failed failure :: List.replicate k .done := by
  simp [pulls, List.replicate_succ', ← List.append_assoc]

theorem pulls_done (k : Nat) : (⟨[], none⟩ : Drained α).pulls k = List.replicate k .done := by
  simp [pulls]

end Drained

namespace Pull

/-- Some steps of a sequence. -/
def steps (next : τ → StateM σ (Pull α × τ)) : Nat → τ → StateM σ (List (Pull α) × τ)
  | 0, q => return ([], q)
  | k + 1, q => do
    let (pull, q) ← next q
    let (pulls, q) ← steps next k q
    return (pull :: pulls, q)

/-- The sequence gives the end and asks for nothing. -/
def Rests (next : τ → StateM σ (Pull α × τ)) (q : τ) : Prop :=
  ∀ s, (next q).run s = ((.done, q), s)

/-- The items that a sequence yields from a state, and the failure after them if there is one. -/
inductive Yields (next : τ → StateM σ (Pull α × τ)) : τ → σ → Drained α → Prop
  | item {q q' : τ} {s s' : σ} {value : α} {d : Drained α}
      (step : (next q).run s = ((.item value, q'), s')) (later : Yields next q' s' d) :
      Yields next q s (d.cons value)
  | done {q q' : τ} {s s' : σ} (step : (next q).run s = ((.done, q'), s'))
      (rests : Rests next q') : Yields next q s ⟨[], none⟩
  | failed {q q' : τ} {s s' : σ} {failure : Failure}
      (step : (next q).run s = ((.failed failure, q'), s')) (rests : Rests next q') :
      Yields next q s ⟨[], some failure⟩

section

variable {next : τ → StateM σ (Pull α × τ)} {q q' : τ} {s s' : σ} {d : Drained α}

@[simp] theorem steps_zero : (steps next 0 q).run s = (([], q), s) := rfl

theorem steps_succ {pull : Pull α} (step : (next q).run s = ((pull, q'), s')) (k : Nat) :
    (steps next (k + 1) q).run s =
      let rest := (steps next k q').run s'
      ((pull :: rest.1.1, rest.1.2), rest.2) := by
  rw [steps, StateT.run_bind, step]
  rfl

theorem Rests.steps_run (rests : Rests next q) (k : Nat) (s : σ) :
    (steps next k q).run s = ((List.replicate k .done, q), s) := by
  induction k with
  | zero => rfl
  | succ k ih => rw [steps_succ (rests s), ih]; rfl

/-- **What a sequence yields settles its steps**, as many as are made. -/
theorem steps_of_yields (yields : Yields next q s d) (k : Nat) :
    ((steps next k q).run s).1.1 = d.pulls k := by
  induction yields generalizing k with
  | item step later ih =>
      cases k with
      | zero => rfl
      | succ k => rw [steps_succ step, Drained.pulls_cons, ← ih k]
  | done step rests =>
      cases k with
      | zero => rfl
      | succ k => rw [steps_succ step, rests.steps_run, Drained.pulls_done]; rfl
  | failed step rests =>
      cases k with
      | zero => rfl
      | succ k => rw [steps_succ step, rests.steps_run, Drained.pulls_failed]

theorem drain_of_yields (yields : Yields next q s d) {fuel : Nat} (enough : d.items.length ≤ fuel) :
    ((drain next (fuel + 1) q).run s).1.1 = d := by
  induction yields generalizing fuel with
  | item step later ih =>
      obtain ⟨fuel, rfl⟩ : ∃ less, fuel = less + 1 :=
        ⟨fuel - 1, by simp only [Drained.cons, List.length_cons] at enough; omega⟩
      rw [drain_run, step]
      exact congrArg (Drained.cons _) (ih (Nat.le_of_succ_le_succ enough))
  | done step _ => rw [drain_run, step]
  | failed step _ => rw [drain_run, step]

/-- A drain finds what a sequence yields if the bound is no smaller. -/
theorem drainAll_of_yields {remaining : τ → σ → Nat} (yields : Yields next q s d)
    (enough : ∀ value q' s', (next q).run s = ((.item value, q'), s') →
      d.items.length ≤ remaining q' s' + 1) :
    ((drainAll next remaining q).run s).1.1 = d := by
  cases yields with
  | @item _ q' _ s' value d step later =>
      have bound := enough value q' s' step
      rw [drainAll_run, step]
      exact congrArg (Drained.cons value) (drain_of_yields later (Nat.le_of_succ_le_succ bound))
  | done step _ => rw [drainAll_run, step]
  | failed step _ => rw [drainAll_run, step]

/-- A first step that is also one from elsewhere goes on as it does there. -/
theorem steps_of_same_step {p : τ} {r : σ} (same : (next q).run s = (next p).run r) (k : Nat) :
    (steps next (k + 1) q).run s = (steps next (k + 1) p).run r := by
  rcases step : (next p).run r with ⟨⟨pull, q'⟩, s'⟩
  rw [steps_succ step, steps_succ (same.trans step)]

theorem Yields.of_same_step {p : τ} {r : σ} (yields : Yields next p r d)
    (same : (next q).run s = (next p).run r) : Yields next q s d := by
  cases yields with
  | item step later => exact .item (same.trans step) later
  | done step rests => exact .done (same.trans step) rests
  | failed step rests => exact .failed (same.trans step) rests

end

end Pull

/-! ## Threads that play a script -/

/-- The bindings before the first term that is thrown, and its error. -/
def Answer.course : List Answer → Drained Bindings
  | [] => ⟨[], none⟩
  | .bindings links :: rest => (course rest).cons links
  | .thrown term :: _ => ⟨[], some (.logic (LogicError.ofTerm term))⟩

theorem Answer.length_course_le (answers : List Answer) :
    (course answers).items.length ≤ answers.length := by
  induction answers with
  | nil => exact Nat.le_refl 0
  | cons answer rest ih =>
      cases answer with
      | bindings links => exact Nat.succ_le_succ ih
      | thrown term => exact Nat.zero_le _

namespace Scripted

open AnswerSequence

variable {script : Script} {n : Nat} {s : State} {query : String}

theorem rests_finished : Pull.Rests next (.finished : AnswerSequence σ) := fun _ => rfl

theorem yields_running (script : Script) {answers : List Answer}
    (hears : heard (s.pending.get n) = answers) :
    Pull.Yields next (.running (thread script n)) s (Answer.course answers) := by
  induction answers generalizing s with
  | nil => exact .done (next_of_end hears) rests_finished
  | cons answer rest ih =>
      cases answer with
      | bindings links =>
          obtain ⟨step, later⟩ := next_of_bindings script hears
          exact .item step (ih later)
      | thrown term => exact .failed (next_of_thrown hears) rests_finished

theorem next_fresh_of_accepted (accepted : script.acknowledgement query = .accepted) :
    (next (.fresh (thread script n) query)).run s =
      (next (.running (thread script n))).run (s.queried script n query) := by
  rw [next_fresh_run, accepted]

/-- **A query yields the bindings before the first term that is thrown**, and then its error or
the end. -/
theorem yields_fresh (accepted : script.acknowledgement query = .accepted) :
    Pull.Yields next (.fresh (thread script n) query) s
      (Answer.course (heard (script.pendingFor query (s.pending.get n)))) := by
  refine (yields_running script ?_).of_same_step (next_fresh_of_accepted accepted)
  rw [State.get_pending_queried]

/-- The bound that a thread gives after its first answer is no smaller than what is left. -/
theorem length_le_remaining (accepted : script.acknowledgement query = .accepted)
    {links : Bindings} {q' : AnswerSequence State} {s' : State}
    (step : (next (.fresh (thread script n) query)).run s = ((.item links, q'), s')) :
    (Answer.course (heard (script.pendingFor query (s.pending.get n)))).items.length ≤
      q'.remaining s' + 1 := by
  rw [next_fresh_of_accepted accepted] at step
  cases hears : heard (script.pendingFor query (s.pending.get n)) with
  | nil => exact Nat.zero_le _
  | cons answer rest =>
      rw [← State.get_pending_queried s script n query] at hears
      cases answer with
      | bindings first =>
          obtain ⟨stepped, later⟩ := next_of_bindings script hears
          rw [stepped] at step
          cases step
          have bound := length_heard_le (((s.queried script n query).pulled n 1).pending.get n)
          rw [later] at bound
          exact Nat.succ_le_succ (Nat.le_trans (Answer.length_course_le rest) bound)
      | thrown term => exact Nat.zero_le _

theorem drain_fresh (accepted : script.acknowledgement query = .accepted) :
    ((drain (.fresh (thread script n) query)).run s).1.1 =
      Answer.course (heard (script.pendingFor query (s.pending.get n))) :=
  Pull.drainAll_of_yields (yields_fresh accepted) fun _ _ _ => length_le_remaining accepted

/-! ## What the engine is asked for -/

theorem trace_steps_running {answers : List Answer} (hears : heard (s.pending.get n) = answers)
    (k : Nat) : ((Pull.steps next k (.running (thread script n))).run s).2.trace =
      s.trace ++ List.replicate (min k ((Answer.course answers).items.length + 1)) (.answer n) := by
  induction k generalizing s answers with
  | zero => simp
  | succ k ih =>
      cases answers with
      | nil =>
          rw [Pull.steps_succ (next_of_end hears), rests_finished.steps_run]
          simp [Answer.course]
      | cons answer rest =>
          cases answer with
          | bindings links =>
              obtain ⟨step, later⟩ := next_of_bindings script hears
              rw [Pull.steps_succ step]
              simp only [ih later]
              simp [Answer.course, Drained.cons, Nat.succ_min_succ, List.replicate_succ]
          | thrown term =>
              rw [Pull.steps_succ (next_of_thrown hears), rests_finished.steps_run]
              simp [Answer.course]

/-- The calls that some steps of a query make. -/
def callsOf (n : Nat) (query : String) (items k : Nat) : List Event :=
  if k = 0 then [] else .query n query :: List.replicate (min k (items + 1)) (.answer n)

/-- **The engine gets the query with the first step**, and one request for each step up to the
last. -/
theorem trace_steps (accepted : script.acknowledgement query = .accepted) (k : Nat) :
    ((Pull.steps next k (.fresh (thread script n) query)).run s).2.trace = s.trace ++
      callsOf n query
        (Answer.course (heard (script.pendingFor query (s.pending.get n)))).items.length k := by
  cases k with
  | zero => simp [callsOf]
  | succ k =>
      have hears := congrArg heard (State.get_pending_queried s script n query)
      rw [Pull.steps_of_same_step (next_fresh_of_accepted accepted), trace_steps_running hears]
      simp [callsOf]

end Scripted

end WorkspacePolicy
