/-
# Proofs.Policy.FailFast — an evaluation stops at the first failure and closes its session

Every evaluation opens one session and closes it, whatever its engine does. In between it makes
no call that its outcome does not need (`FailFast`): a text that is refused is the last one and
no query is asked; a query that is refused gets no request; an answer that was thrown or is
invalid is the last one that is asked for, and after a bad dependency nothing is asked about
fields. A query whose answers all pass is asked for one more than there are, and only then the
next query begins.

That no call inside a session opens or closes one is an invariant of its steps (`StaysInside`);
the calls of each course follow from what collecting a query does.
-/
import WorkspacePolicy.Proofs.Policy.Evaluation

namespace WorkspacePolicy

set_option autoImplicit false

open Scripted

/-! ## Calls inside a session -/

/-- The call neither opens a session nor closes one. -/
def Scripted.Event.isInside : Event → Bool
  | .consult _ _ => true
  | .query _ _ => true
  | .answer _ => true
  | _ => false

/-- An action adds calls to the trace that stay inside the session, whatever its outcome. -/
def StaysInside {α : Type} (action : Action State α) : Prop :=
  ∀ s, ∃ calls, (action.result s).2.trace = s.trace ++ calls ∧ ∀ e ∈ calls, e.isInside

namespace StaysInside

variable {α β : Type}

theorem pure (value : α) : StaysInside (Pure.pure value) := fun _ => ⟨[], by simp⟩

theorem bind {first : Action State α} {next : α → Action State β} (inside : StaysInside first)
    (after : ∀ value, StaysInside (next value)) : StaysInside (first >>= next) := by
  intro s
  obtain ⟨calls, made, allInside⟩ := inside s
  rw [Action.result_bind]
  rcases given : first.result s with ⟨failure | value, s'⟩
  · rw [given] at made
    exact ⟨calls, made, allInside⟩
  · rw [given] at made
    obtain ⟨more, madeAfter, moreInside⟩ := after value s'
    refine ⟨calls ++ more, by rw [madeAfter, made, List.append_assoc], fun e member => ?_⟩
    rcases List.mem_append.mp member with member | member
    · exact allInside e member
    · exact moreInside e member

theorem consult (script : Script) (main : Nat) (source : String) :
    StaysInside ((thread script main).consult source) := fun s =>
  ⟨[.consult main source], by rw [consult_result]; rfl, by simp [Event.isInside]⟩

theorem consults (script : Script) (main : Nat) (sources : List String) :
    StaysInside (forM sources (thread script main).consult) := by
  induction sources with
  | nil => exact pure _
  | cons source rest ih =>
      rw [List.forM_cons]
      exact bind (consult script main source) fun _ => ih

theorem collect (script : Script) (main : Nat) (query : String)
    (convert : Bindings → Except Failure α) :
    StaysInside ((AnswerSequence.fresh (thread script main) query).collect convert) := by
  intro s
  rw [collect_result]
  cases script.acknowledgement query with
  | refused term => exact ⟨[.query main query], rfl, by simp [Event.isInside]⟩
  | accepted =>
      refine ⟨.query main query :: List.replicate (requests (Answer.judge convert)
        (heard (script.pendingFor query (s.pending.get main)))) (.answer main), by simp, ?_⟩
      intro e member
      rcases List.mem_cons.mp member with rfl | member
      · rfl
      · rw [List.eq_of_mem_replicate member]
        rfl

theorem program (policy : Policy State) (script : Script) (main : Nat) :
    StaysInside (policy.program script main) := by
  refine bind (consults script main _) fun _ => ?_
  refine bind (bind (collect script main _ _) fun _ => pure _) fun _ => ?_
  exact bind (bind (collect script main _ _) fun _ => pure _) fun _ => pure _

end StaysInside

namespace Policy

/-! ## The calls of an evaluation -/

/-- The calls before the first query, where all texts are accepted. -/
def prelude (policy : Policy State) (script : Script) (main : Nat) : List Event :=
  .setup :: .createSession :: (policy.texts script).map (.consult main)

/-- The calls for a query with some requests. -/
def asked (main : Nat) (query : String) (requests : Nat) : List Event :=
  .query main query :: List.replicate requests (.answer main)

/-- An engine that has consulted some texts accepts the three of an evaluation. -/
def AcceptsTexts (script : Script) (consulted : Nat) : Prop :=
  ∀ i < 3, (script.consultAt (consulted + i)).first = .accepted

/-- The texts are accepted and all dependencies pass. -/
structure DependenciesPass (project : Project) (script : Script) (consulted : Nat) : Prop where
  texts : AcceptsTexts script consulted
  accepted : script.acknowledgement EnforcedDependency.query = .accepted
  pass : ∀ a ∈ script.dependencyAnswers, Passes project.judgeDependency a

/-- How an evaluation on the thread `main` comes to its outcome, on an engine that has consulted
some texts before. -/
structure FailFast (policy : Policy State) (script : Script) (consulted main : Nat)
    (outcome : Except Failure Conclusions) (calls : List Event) : Prop where
  /-- One session is opened. -/
  opens : calls.count .createSession = 1
  /-- It is closed once. -/
  closes : calls.count .close = 1
  /-- The first text that is refused ends the evaluation, before any query. -/
  textRefused : ∀ sources source later term,
    policy.texts script = sources ++ source :: later →
    (∀ i < sources.length, (script.consultAt (consulted + i)).first = .accepted) →
    (script.consultAt (consulted + sources.length)).first = .refused term →
    outcome = .error (.logic (LogicError.ofTerm term)) ∧
      calls = .setup :: .createSession :: (sources ++ [source]).map (.consult main) ++ [.close]
  /-- No answer is asked for where the query is refused. -/
  dependenciesRefused : AcceptsTexts script consulted → ∀ term,
    script.acknowledgement EnforcedDependency.query = .refused term →
    outcome = .error (.logic (LogicError.ofTerm term)) ∧
      calls = policy.prelude script main ++ asked main EnforcedDependency.query 0 ++ [.close]
  /-- The first bad answer is the last one, and nothing is asked about fields. -/
  dependencyBad : AcceptsTexts script consulted →
    script.acknowledgement EnforcedDependency.query = .accepted → ∀ good bad later failure,
    script.dependencyAnswers = good ++ bad :: later →
    (∀ a ∈ good, Passes policy.project.judgeDependency a) →
    policy.project.judgeDependency bad = .error failure →
    outcome = .error failure ∧
      calls = policy.prelude script main ++
        asked main EnforcedDependency.query (good.length + 1) ++ [.close]
  /-- The dependencies are asked for up to their end before the fields. -/
  fieldsRefused : DependenciesPass policy.project script consulted → ∀ term,
    script.acknowledgement EnforcedField.query = .refused term →
    outcome = .error (.logic (LogicError.ofTerm term)) ∧
      calls = policy.prelude script main ++
        (asked main EnforcedDependency.query (script.dependencyAnswers.length + 1) ++
          asked main EnforcedField.query 0) ++ [.close]
  /-- The first bad field is the last one. -/
  fieldBad : DependenciesPass policy.project script consulted →
    script.acknowledgement EnforcedField.query = .accepted → ∀ good bad later failure,
    script.fieldAnswers = good ++ bad :: later →
    (∀ a ∈ good, Passes policy.project.judgeField a) →
    policy.project.judgeField bad = .error failure →
    outcome = .error failure ∧
      calls = policy.prelude script main ++
        (asked main EnforcedDependency.query (script.dependencyAnswers.length + 1) ++
          asked main EnforcedField.query (good.length + 1)) ++ [.close]
  /-- Where every answer passes, each query is asked for one more than there are. -/
  complete : DependenciesPass policy.project script consulted →
    script.acknowledgement EnforcedField.query = .accepted →
    (∀ a ∈ script.fieldAnswers, Passes policy.project.judgeField a) →
    (∃ conclusions, outcome = .ok conclusions) ∧
      calls = policy.prelude script main ++
        (asked main EnforcedDependency.query (script.dependencyAnswers.length + 1) ++
          asked main EnforcedField.query (script.fieldAnswers.length + 1)) ++ [.close]

/-! ## The courses of a program -/

section

variable {policy : Policy State} {script : Script} {main : Nat} {s : State}

theorem program_of_textRefused {sources later : List String} {source : String} {term : Term}
    (split : policy.texts script = sources ++ source :: later)
    (accepted : ∀ i < sources.length, (script.consultAt (s.consulted + i)).first = .accepted)
    (refused : (script.consultAt (s.consulted + sources.length)).first = .refused term) :
    (policy.program script main).result s =
      (.error (.logic (LogicError.ofTerm term)), s.consults main (sources ++ [source])) := by
  rw [program, split]
  exact Action.result_bind_error _ (consults_refused accepted refused)

theorem program_of_texts (texts : AcceptsTexts script s.consulted) :
    (policy.program script main).result s =
      (policy.conclude (thread script main)).result (s.consults main (policy.texts script)) :=
  Action.result_bind_ok _ (consults_accepted texts)

theorem program_of_dependenciesRefused (texts : AcceptsTexts script s.consulted) {term : Term}
    (refused : script.acknowledgement EnforcedDependency.query = .refused term) :
    (policy.program script main).result s = (.error (.logic (LogicError.ofTerm term)),
      (s.consults main (policy.texts script)).queried script main EnforcedDependency.query) := by
  rw [program_of_texts texts]
  exact conclude_of_error (collect_of_refused refused)

theorem program_of_dependencyBad (fresh : s.pending.get main = [])
    (texts : AcceptsTexts script s.consulted)
    (accepted : script.acknowledgement EnforcedDependency.query = .accepted)
    {good later : List Answer} {bad : Answer} {failure : Failure}
    (hears : script.dependencyAnswers = good ++ bad :: later)
    (pass : ∀ a ∈ good, Passes policy.project.judgeDependency a)
    (fails : policy.project.judgeDependency bad = .error failure) :
    (policy.program script main).result s = (.error failure,
      ((s.consults main (policy.texts script)).queried script main
        EnforcedDependency.query).pulled main (good.length + 1)) := by
  rw [Script.dependencyAnswers, ← fresh] at hears
  rw [program_of_texts texts]
  exact conclude_of_error (collect_of_bad accepted hears pass fails)

/-- What is left of a program after the end of its dependencies. -/
theorem program_of_dependencies (fresh : s.pending.get main = [])
    (pass : DependenciesPass policy.project script s.consulted) :
    ∃ dependencies, (policy.program script main).result s =
      (policy.enforcedFields (thread script main) >>= fun fields =>
        pure ⟨dependencies, fields⟩ : Action State Conclusions).result
          (((s.consults main (policy.texts script)).queried script main
            EnforcedDependency.query).pulled main (script.dependencyAnswers.length + 1)) := by
  obtain ⟨dependencies, given⟩ := exists_mapM_of_passes pass.pass
  refine ⟨dependencies.mergeSort EnforcedDependency.le, ?_⟩
  rw [program_of_texts pass.texts]
  exact conclude_of_dependencies fresh pass.accepted given

theorem program_of_fieldsRefused (fresh : s.pending.get main = [])
    (pass : DependenciesPass policy.project script s.consulted) {term : Term}
    (refused : script.acknowledgement EnforcedField.query = .refused term) :
    (policy.program script main).result s = (.error (.logic (LogicError.ofTerm term)),
      (((s.consults main (policy.texts script)).queried script main
        EnforcedDependency.query).pulled main (script.dependencyAnswers.length + 1)).queried
          script main EnforcedField.query) := by
  obtain ⟨dependencies, ran⟩ := @program_of_dependencies policy script main s fresh pass
  rw [ran]
  exact Action.result_bind_error _ (enforcedFields_result (collect_of_refused refused))

theorem program_of_fieldBad (fresh : s.pending.get main = [])
    (pass : DependenciesPass policy.project script s.consulted)
    (accepted : script.acknowledgement EnforcedField.query = .accepted)
    {good later : List Answer} {bad : Answer} {failure : Failure}
    (hears : script.fieldAnswers = good ++ bad :: later)
    (goodPass : ∀ a ∈ good, Passes policy.project.judgeField a)
    (fails : policy.project.judgeField bad = .error failure) :
    (policy.program script main).result s = (.error failure,
      ((((s.consults main (policy.texts script)).queried script main
        EnforcedDependency.query).pulled main (script.dependencyAnswers.length + 1)).queried
          script main EnforcedField.query).pulled main (good.length + 1)) := by
  obtain ⟨dependencies, ran⟩ := @program_of_dependencies policy script main s fresh pass
  rw [Script.fieldAnswers, ← get_pending_afterDependencies (s := s.consults main _) fresh] at hears
  have collected := collect_of_bad accepted hears goodPass fails
  rw [ran]
  exact Action.result_bind_error _ (enforcedFields_result collected)

theorem program_of_complete (fresh : s.pending.get main = [])
    (pass : DependenciesPass policy.project script s.consulted)
    (accepted : script.acknowledgement EnforcedField.query = .accepted)
    (fieldsPass : ∀ a ∈ script.fieldAnswers, Passes policy.project.judgeField a) :
    ∃ conclusions, (policy.program script main).result s = (.ok conclusions,
      ((((s.consults main (policy.texts script)).queried script main
        EnforcedDependency.query).pulled main (script.dependencyAnswers.length + 1)).queried
          script main EnforcedField.query).pulled main (script.fieldAnswers.length + 1)) := by
  obtain ⟨dependencies, ran⟩ := @program_of_dependencies policy script main s fresh pass
  obtain ⟨fields, given⟩ := exists_mapM_of_passes fieldsPass
  have hears : heard (script.pendingFor EnforcedField.query
      ((((s.consults main (policy.texts script)).queried script main
        EnforcedDependency.query).pulled main
          (script.dependencyAnswers.length + 1)).pending.get main)) = script.fieldAnswers := by
    rw [get_pending_afterDependencies (s := s.consults main _) fresh]
    rfl
  have collected := collect_of_passes accepted hears given
  refine ⟨⟨dependencies, fields.mergeSort EnforcedField.le⟩, ?_⟩
  rw [ran]
  exact Action.result_bind_ok _ (enforcedFields_result collected)

end

/-! ## The calls of an evaluation -/

section

variable {project : Project} {rules : String} {script : Script} {w : World State}
  {calls inside : List Event} {outcome : Except Failure Conclusions} {s : State}

/-- The program of an evaluation determines its outcome and its calls. -/
theorem calls_of_program
    (made : ((scripted project rules script).evaluate.result w).2.backend.trace =
      w.backend.trace ++ calls)
    (ran : ((scripted project rules script).program script w.backend.pending.size).result
      w.backend.opened = (outcome, s))
    (trace : s.trace = w.backend.opened.trace ++ inside) :
    ((scripted project rules script).evaluate.result w).1 = outcome ∧
      calls = .setup :: .createSession :: inside ++ [.close] := by
  rw [evaluate_result, ran] at made ⊢
  simp only [State.trace_record, trace, State.trace_opened, List.append_assoc] at made
  exact ⟨rfl, (List.append_cancel_left made).symm⟩

theorem calls_of_texts
    (made : ((scripted project rules script).evaluate.result w).2.backend.trace =
      w.backend.trace ++ calls)
    (ran : ((scripted project rules script).program script w.backend.pending.size).result
      w.backend.opened = (outcome, s))
    (trace : s.trace = (w.backend.opened.consults w.backend.pending.size
      ((scripted project rules script).texts script)).trace ++ inside) :
    ((scripted project rules script).evaluate.result w).1 = outcome ∧
      calls = (scripted project rules script).prelude script w.backend.pending.size ++ inside ++
        [.close] := by
  rw [State.trace_consults, List.append_assoc] at trace
  exact calls_of_program made ran trace

end

/-- **An evaluation is fail-fast and closes its session once.** -/
theorem evaluate_failFast (project : Project) (rules : String) (script : Script)
    (before : World State) :
    ∃ calls, ((scripted project rules script).evaluate.result before).2.backend.trace =
        before.backend.trace ++ calls ∧
      FailFast (scripted project rules script) script before.backend.consulted
        before.backend.pending.size ((scripted project rules script).evaluate.result before).1
        calls := by
  obtain ⟨inside, grown, allInside⟩ := StaysInside.program (scripted project rules script) script
    before.backend.pending.size before.backend.opened
  have made : ((scripted project rules script).evaluate.result before).2.backend.trace =
      before.backend.trace ++ (.setup :: .createSession :: inside ++ [.close]) := by
    rw [evaluate_result]
    simp [grown]
  -- So the session is opened and closed by the evaluation itself and by nothing in between.
  have noneInside : ∀ e : Event, e.isInside = false → inside.count e = 0 := by
    intro e outside
    rw [List.count_eq_zero]
    intro member
    rw [allInside e member] at outside
    exact absurd outside (by decide)
  have fresh : before.backend.opened.pending.get before.backend.pending.size = [] :=
    State.get_pending_opened _
  refine ⟨_, made, ?_⟩
  constructor
  case opens => simp [noneInside .createSession rfl]
  case closes => simp [noneInside .close rfl]
  case textRefused =>
    intro sources source later term split accepted refused
    exact calls_of_program made (program_of_textRefused split accepted refused) rfl
  case dependenciesRefused =>
    intro texts term refused
    have ran := @program_of_dependenciesRefused (scripted project rules script) script
      before.backend.pending.size before.backend.opened texts term refused
    exact calls_of_texts made ran (by simp [asked])
  case dependencyBad =>
    intro texts accepted good bad later failure hears pass fails
    have ran := program_of_dependencyBad (s := before.backend.opened) fresh texts accepted hears
      pass fails
    exact calls_of_texts made ran (by simp [asked])
  case fieldsRefused =>
    intro pass term refused
    have ran := program_of_fieldsRefused (s := before.backend.opened) fresh pass refused
    exact calls_of_texts made ran (by simp [asked])
  case fieldBad =>
    intro pass accepted good bad later failure hears goodPass fails
    have ran := program_of_fieldBad (s := before.backend.opened) fresh pass accepted hears
      goodPass fails
    exact calls_of_texts made ran (by simp [asked])
  case complete =>
    intro pass accepted fieldsPass
    obtain ⟨conclusions, ran⟩ := program_of_complete (s := before.backend.opened) fresh pass
      accepted fieldsPass
    refine ⟨⟨conclusions, by rw [evaluate_result, ran]⟩, ?_⟩
    exact (calls_of_texts made ran (by simp [asked])).2

end Policy

end WorkspacePolicy
