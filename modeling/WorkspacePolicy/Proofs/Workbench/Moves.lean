/-
# Proofs.Workbench.Moves — which state a move leaves

A move finds the session, the thread or the sequence that it works on, acts on the world and
numbers what it has made. Each equation here says what that is for one kind of move; a move
that finds nothing leaves the workbench as it was. A run of moves goes on after moves that
fail.
-/
import WorkspacePolicy.Proofs.Engine.Action
import WorkspacePolicy.Workbench

namespace WorkspacePolicy.Workbench

set_option autoImplicit false

variable {σ α : Type} {bench : Workbench σ} {n : Nat}

/-- The workbench after a move. -/
def after (bench : Workbench σ) (move : Move σ) : Workbench σ := ((perform move).result bench).2

/-- The workbench after some moves. -/
def run (bench : Workbench σ) (moves : List (Move σ)) : Workbench σ := moves.foldl after bench

/-- The workbench with another state of the engines. -/
def withBackend (bench : Workbench σ) (backend : σ) : Workbench σ :=
  { bench with world := { bench.world with backend := backend } }

theorem run_append (bench : Workbench σ) (moves more : List (Move σ)) :
    bench.run (moves ++ more) = (bench.run moves).run more := List.foldl_append

@[simp] theorem result_onWorld (action : Action (World σ) α) :
    (onWorld action).result bench =
      ((action.result bench.world).1, { bench with world := (action.result bench.world).2 }) := rfl

@[simp] theorem result_onBackend (action : Action σ α) :
    (onBackend action).result bench =
      ((action.result bench.world.backend).1,
        bench.withBackend (action.result bench.world.backend).2) := rfl

theorem sessionAt_of_some {session : Session σ} (found : bench.sessions[n]? = some session) :
    (sessionAt n).result bench = (.ok session, bench) := by
  unfold sessionAt
  rw [Action.result_bind, Action.result_get]
  simp only [found]
  rfl

theorem sessionAt_of_none (missing : bench.sessions[n]? = none) :
    (sessionAt n).result bench = (.error .unknownNumber, bench) := by
  unfold sessionAt
  rw [Action.result_bind, Action.result_get]
  simp only [missing]
  rfl

theorem threadAt_of_some {thread : Thread σ} (found : bench.threads[n]? = some thread) :
    (threadAt n).result bench = (.ok thread, bench) := by
  unfold threadAt
  rw [Action.result_bind, Action.result_get]
  simp only [found]
  rfl

theorem threadAt_of_none (missing : bench.threads[n]? = none) :
    (threadAt n).result bench = (.error .unknownNumber, bench) := by
  unfold threadAt
  rw [Action.result_bind, Action.result_get]
  simp only [missing]
  rfl

/-! ## Sessions -/

theorem after_start (engine : Engine σ) : bench.after (.start (.ok engine)) =
    match (Session.start engine).result bench.world with
    | (.ok session, world) =>
      { bench with
        world := world
        sessions := bench.sessions ++ [session]
        threads := bench.threads ++ [session.main] }
    | (.error _, world) => { bench with world := world } := by
  unfold after perform
  rw [Action.result_bind, result_onWorld]
  rcases (Session.start engine).result bench.world with ⟨_ | _, _⟩ <;> rfl

section

variable {session : Session σ}

theorem after_of_noSession (missing : bench.sessions[n]? = none) :
    (∀ linkage source, bench.after (.init n linkage source) = bench) ∧
      bench.after (.createThread n) = bench ∧ bench.after (.close n) = bench := by
  refine ⟨fun linkage source => ?_, ?_, ?_⟩ <;> unfold after perform <;>
    rw [Action.result_bind_error _ (sessionAt_of_none missing)]

theorem after_init (found : bench.sessions[n]? = some session) (linkage source : String) :
    bench.after (.init n linkage source) =
      { bench with world := ((session.init linkage source).result bench.world).2 } := by
  unfold after perform
  rw [Action.result_bind_ok _ (sessionAt_of_some found), Action.result_bind, result_onWorld]
  rcases (session.init linkage source).result bench.world with ⟨_ | _, _⟩ <;> rfl

theorem after_createThread (found : bench.sessions[n]? = some session) :
    bench.after (.createThread n) =
      match session.createThread.result bench.world with
      | (.ok thread, world) =>
        { bench with world := world, threads := bench.threads ++ [thread] }
      | (.error _, world) => { bench with world := world } := by
  unfold after perform
  rw [Action.result_bind_ok _ (sessionAt_of_some found), Action.result_bind, result_onWorld]
  rcases session.createThread.result bench.world with ⟨_ | _, _⟩ <;> rfl

theorem after_close (found : bench.sessions[n]? = some session) :
    bench.after (.close n) = { bench with world := (session.close.result bench.world).2 } := by
  unfold after perform
  rw [Action.result_bind_ok _ (sessionAt_of_some found), Action.result_bind, result_onWorld]
  rcases session.close.result bench.world with ⟨_ | _, _⟩ <;> rfl

theorem after_isClosed (n : Nat) : bench.after (.isClosed n) = bench := by
  unfold after perform
  cases found : bench.sessions[n]? with
  | none => rw [Action.result_bind_error _ (sessionAt_of_none found)]
  | some session =>
      rw [Action.result_bind_ok _ (sessionAt_of_some found)]
      rfl

end

/-! ## Threads -/

section

variable {thread : Thread σ}

theorem after_of_noThread (missing : bench.threads[n]? = none) (source : String) :
    bench.after (.consult n source) = bench ∧ bench.after (.startQuery n source) = bench ∧
      bench.after (.makeQuery n source) = bench := by
  refine ⟨?_, ?_, ?_⟩ <;> unfold after perform <;>
    rw [Action.result_bind_error _ (threadAt_of_none missing)]

theorem after_consult (found : bench.threads[n]? = some thread) (source : String) :
    bench.after (.consult n source) =
      bench.withBackend ((thread.consult source).result bench.world.backend).2 := by
  unfold after perform
  rw [Action.result_bind_ok _ (threadAt_of_some found), Action.result_bind, result_onBackend]
  rcases (thread.consult source).result bench.world.backend with ⟨_ | _, _⟩ <;> rfl

theorem after_startQuery (found : bench.threads[n]? = some thread) (source : String) :
    bench.after (.startQuery n source) =
      bench.withBackend ((thread.startQuery source).result bench.world.backend).2 := by
  unfold after perform
  rw [Action.result_bind_ok _ (threadAt_of_some found), Action.result_bind, result_onBackend]
  rcases (thread.startQuery source).result bench.world.backend with ⟨_ | _, _⟩ <;> rfl

theorem after_makeQuery (found : bench.threads[n]? = some thread) (query : String) :
    bench.after (.makeQuery n query) =
      { bench with sequences := bench.sequences.add (.answers (.fresh thread query)) } := by
  unfold after perform
  rw [Action.result_bind_ok _ (threadAt_of_some found)]
  rfl

end

/-! ## Sequences -/

/-- What a step of a sequence comes to. -/
def pulled (item : α → Outcome) : Pull α → Except Failure Outcome
  | .item value => .ok (item value)
  | .done => .ok .finished
  | .failed failure => .error failure

theorem ofPull_result (item : α → Outcome) (pull : Pull α) :
    (ofPull item pull).result bench = (pulled item pull, bench) := by
  cases pull <;> rfl

section

variable {answers : AnswerSequence σ} {rows : RowSequence σ}

theorem next_answers_result (found : bench.sequences.get n = .answers answers) :
    (perform (.next n)).result bench =
      let step := answers.next.run bench.world.backend
      (pulled .bindings step.1.1, { bench.withBackend step.2 with
        sequences := bench.sequences.set n (.answers step.1.2) }) := by
  show (next n).result bench = _
  unfold next
  rw [Action.result_bind, Action.result_get]
  simp only [found]
  rw [stepAnswers, Action.result_bind, result_onBackend, Action.result_lift]
  exact ofPull_result ..

theorem next_rows_result (found : bench.sequences.get n = .rows rows) :
    (perform (.next n)).result bench =
      let step := rows.next.run bench.world
      (pulled .row step.1.1,
        { bench with world := step.2, sequences := bench.sequences.set n (.rows step.1.2) }) := by
  show (next n).result bench = _
  unfold next
  rw [Action.result_bind, Action.result_get]
  simp only [found]
  rw [stepRows, Action.result_bind, result_onWorld, Action.result_lift]
  exact ofPull_result ..

theorem abandon_answers_result (found : bench.sequences.get n = .answers answers) :
    (perform (.abandon n)).result bench = (.ok .nothing,
      { bench with sequences := bench.sequences.set n (.answers .finished) }) := by
  show (abandon n).result bench = _
  unfold abandon
  rw [Action.result_bind, Action.result_get]
  simp only [found]
  rfl

theorem abandon_rows_result (found : bench.sequences.get n = .rows rows) :
    (perform (.abandon n)).result bench =
      let given := rows.abandon.result bench.world
      (given.1.map fun _ => .nothing,
        { bench with world := given.2, sequences := bench.sequences.set n (.rows .finished) }) := by
  show (abandon n).result bench = _
  unfold abandon
  rw [Action.result_bind, Action.result_get]
  simp only [found]
  rw [Action.result_bind]
  simp only [setSequence, Action.result_modify]
  rw [Action.result_bind, result_onWorld]
  rcases rows.abandon.result bench.world with ⟨_ | _, _⟩ <;> rfl

theorem drain_answers_result (found : bench.sequences.get n = .answers answers) :
    (perform (.drain n)).result bench =
      let step := answers.drain.run bench.world.backend
      (.ok (.answers step.1.1), { bench.withBackend step.2 with
        sequences := bench.sequences.set n (.answers step.1.2) }) := by
  show (drain n).result bench = _
  unfold drain
  rw [Action.result_bind, Action.result_get]
  simp only [found]
  rw [Action.result_bind, result_onBackend, Action.result_lift]
  rfl

end

end WorkspacePolicy.Workbench
