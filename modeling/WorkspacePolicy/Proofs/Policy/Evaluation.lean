/-
# Proofs.Policy.Evaluation — an evaluation on an engine that plays a script

Between the opening of its session and the close, an evaluation consults three texts and asks
two queries on one thread (`program`). Whatever comes of them, the session is closed after
them, and the outcome of the evaluation is theirs (`evaluate_result`): a failed consult closes
the session in `Session.init`, everything later in `Policy.evaluate`.

`texts` are the texts in the order in which they are consulted, and `dependencyAnswers` and
`fieldAnswers` what the thread hears for the two queries if every dependency passes.
-/
import WorkspacePolicy.Policy.Evaluation
import WorkspacePolicy.Proofs.Session.Steps

namespace WorkspacePolicy

set_option autoImplicit false

open Scripted

/-! ## The session -/

namespace Scripted.State

/-- The state after a session was opened. -/
def opened (s : State) : State :=
  { s with
    sessions := s.sessions + 1
    pending := s.pending.add []
    trace := s.trace ++ [.setup, .createSession] }

@[simp] theorem trace_opened (s : State) :
    s.opened.trace = s.trace ++ [.setup, .createSession] := rfl

@[simp] theorem consulted_opened (s : State) : s.opened.consulted = s.consulted := rfl

@[simp] theorem get_pending_opened (s : State) : s.opened.pending.get s.pending.size = [] :=
  Numbered.get_add_size s.pending []

end Scripted.State

namespace Session

variable {script : Script} {w : World State}

/-- The session that an engine opens in a world. -/
def inWorld (script : Script) (w : World State) : Session State :=
  ⟨Scripted.engine script, w.closed.size, w.backend.sessions, thread script w.backend.pending.size⟩

theorem start_result : (start (Scripted.engine script)).result w =
    (.ok (inWorld script w), ⟨w.backend.opened, w.closed.add false⟩) := by
  have recorded : (w.backend.trace ++ [Event.setup]) ++ [Event.createSession] =
      w.backend.trace ++ [.setup, .createSession] := by simp
  unfold State.opened
  rw [← recorded]
  rfl

theorem close_result {session : Session State} (isOpen : session.isClosed w = false)
    (ofScript : session.engine = Scripted.engine script) :
    session.close.result w =
      (.ok (), ⟨w.backend.record .close, w.closed.set session.number true⟩) := by
  unfold close
  rw [Action.result_bind, Action.result_get]
  simp only [isOpen, ofScript]
  rfl

/-- Initialising and then working on a session is one action, after which the session is closed. -/
theorem init_andFinally_result {α : Type} {linkage source : String} {session : Session State}
    (isOpen : session.isClosed w = false) (ofScript : session.engine = Scripted.engine script)
    (work : Action State α) :
    (session.init linkage source >>= fun _ =>
        (World.onBackend work).andFinally session.close).result w =
      (((session.consultAll linkage source >>= fun _ => work).result w.backend).1,
        ⟨((session.consultAll linkage source >>= fun _ => work).result w.backend).2.record .close,
          w.closed.set session.number true⟩) := by
  have closes : ∀ s : State, session.close.result { w with backend := s } =
      (.ok (), ⟨s.record .close, w.closed.set session.number true⟩) :=
    fun s => close_result (w := { w with backend := s }) isOpen ofScript
  rw [Action.result_bind, init, Action.result_onFailure, World.result_onBackend,
    Action.result_bind]
  -- A failure closes the session in `init`, and everything else after the work.
  rcases (session.consultAll linkage source).result w.backend with ⟨failure | _, s⟩
  · simp only [closes]
  · simp only [Action.result_andFinally, World.result_onBackend, closes]

end Session

/-! ## The program -/

namespace Script

/-- The answers about dependencies that a new thread hears. -/
def dependencyAnswers (script : Script) : List Answer :=
  heard (script.pendingFor EnforcedDependency.query [])

/-- What is pending after the end of the dependencies. -/
def afterDependencies (script : Script) : List (Delivery (Option Answer)) :=
  (script.pendingFor EnforcedDependency.query []).drop (script.dependencyAnswers.length + 1)

/-- The answers about fields that a thread hears after the end of the dependencies. -/
def fieldAnswers (script : Script) : List Answer :=
  heard (script.pendingFor EnforcedField.query script.afterDependencies)

end Script

namespace Project

/-- What an answer about a dependency is turned into. -/
def judgeDependency (project : Project) : Answer → Except Failure EnforcedDependency :=
  Answer.judge (EnforcedDependency.ofBindings project)

/-- What an answer about a field is turned into. -/
def judgeField (project : Project) : Answer → Except Failure EnforcedField :=
  Answer.judge (EnforcedField.ofBindings project)

end Project

namespace Policy

/-- The policy with some rules on the engine that plays a script. -/
def scripted (project : Project) (rules : String) (script : Script) : Policy State :=
  ⟨project, rules, .ok (Scripted.engine script)⟩

/-- The texts that a session of the policy gets, in their order. -/
def texts (policy : Policy State) (script : Script) : List String :=
  [policy.project.linkage, script.supportLibrary, policy.fullSource]

/-- What happens in a session between its opening and its end. -/
def program (policy : Policy State) (script : Script) (main : Nat) : Action State Conclusions := do
  forM (policy.texts script) (thread script main).consult
  policy.conclude (thread script main)

variable {project : Project} {rules : String} {script : Script}

/-- **An evaluation is its program in a session that is closed afterwards.** -/
theorem evaluate_result (w : World State) :
    (scripted project rules script).evaluate.result w =
      let ran := ((scripted project rules script).program script w.backend.pending.size).result
        w.backend.opened
      (ran.1, ⟨ran.2.record .close, (w.closed.add false).set w.closed.size true⟩) := by
  have isOpen : (Session.inWorld script w).isClosed
      ⟨w.backend.opened, w.closed.add false⟩ = false :=
    Numbered.get_add_size w.closed false
  unfold evaluate createSession scripted
  simp only [bind_assoc, pure_bind]
  rw [Action.result_bind_ok _ Session.start_result,
    Session.init_andFinally_result isOpen rfl (conclude _ _), Session.consultAll_eq_forM]
  rfl

/-! ## The two queries -/

section

variable {policy : Policy State} {main : Nat} {s : State}

/-- What comes of the dependencies is what comes of collecting them. -/
theorem enforcedDependencies_result {outcome : Except Failure (List EnforcedDependency)}
    {s' : State}
    (collected : ((AnswerSequence.fresh (thread script main) EnforcedDependency.query).collect
      (EnforcedDependency.ofBindings policy.project)).result s = (outcome, s')) :
    (policy.enforcedDependencies (thread script main)).result s =
      (outcome.map (·.mergeSort EnforcedDependency.le), s') := by
  unfold enforcedDependencies
  rw [Action.result_bind, collected]
  cases outcome <;> rfl

theorem enforcedFields_result {outcome : Except Failure (List EnforcedField)} {s' : State}
    (collected : ((AnswerSequence.fresh (thread script main) EnforcedField.query).collect
      (EnforcedField.ofBindings policy.project)).result s = (outcome, s')) :
    (policy.enforcedFields (thread script main)).result s =
      (outcome.map (·.mergeSort EnforcedField.le), s') := by
  unfold enforcedFields
  rw [Action.result_bind, collected]
  cases outcome <;> rfl

theorem conclude_of_error {failure : Failure} {s' : State}
    (given : ((AnswerSequence.fresh (thread script main) EnforcedDependency.query).collect
      (EnforcedDependency.ofBindings policy.project)).result s = (.error failure, s')) :
    (policy.conclude (thread script main)).result s = (.error failure, s') :=
  Action.result_bind_error _ (enforcedDependencies_result given)

/-- After the end of the dependencies the evaluation depends on the fields alone. -/
theorem conclude_of_dependencies {dependencies : List EnforcedDependency}
    (fresh : s.pending.get main = [])
    (accepted : script.acknowledgement EnforcedDependency.query = .accepted)
    (given : script.dependencyAnswers.mapM policy.project.judgeDependency = .ok dependencies) :
    (policy.conclude (thread script main)).result s =
      (policy.enforcedFields (thread script main) >>= fun fields =>
        pure ⟨dependencies.mergeSort EnforcedDependency.le, fields⟩ :
          Action State Conclusions).result
          ((s.queried script main EnforcedDependency.query).pulled main
            (script.dependencyAnswers.length + 1)) := by
  have hears : heard (script.pendingFor EnforcedDependency.query (s.pending.get main)) =
      script.dependencyAnswers := by rw [fresh]; rfl
  have collected := collect_of_passes accepted hears given
  exact Action.result_bind_ok _ (enforcedDependencies_result collected)

theorem get_pending_afterDependencies (fresh : s.pending.get main = []) :
    ((s.queried script main EnforcedDependency.query).pulled main
      (script.dependencyAnswers.length + 1)).pending.get main = script.afterDependencies := by
  simp [fresh, Script.afterDependencies]

end

end Policy

/-! ## Engines without a failure of their own -/

/-- The engine accepts every text and every query and answers both queries of an evaluation. -/
structure Script.Serves (script : Script) (dependencies fields : List Answer) : Prop where
  consults : ∀ n, (script.consultAt n).first = .accepted
  dependencyQuery : script.acknowledgement EnforcedDependency.query = .accepted
  fieldQuery : script.acknowledgement EnforcedField.query = .accepted
  dependencies : script.dependencyAnswers = dependencies
  fields : script.fieldAnswers = fields

/-- A script for an engine that serves. -/
def Script.answering (dependencies fields : List Answer) : Script where
  answers :=
    [(EnforcedDependency.query, dependencies.map fun answer => { first := some answer }),
      (EnforcedField.query, fields.map fun answer => { first := some answer })]

theorem queries_differ : EnforcedField.query ≠ EnforcedDependency.query := by decide

theorem Script.pendingFor_of_silent {script : Script} {source : String}
    (silent : script.queries = []) (before : List (Delivery (Option Answer))) :
    script.pendingFor source before = script.answersFor source := by
  simp [pendingFor, queryFor?, silent]

theorem Script.answersFor_dependencies (dependencies fields : List Answer) :
    (Script.answering dependencies fields).answersFor EnforcedDependency.query =
      dependencies.map fun answer => { first := some answer } := by
  simp [answersFor, answering, queries_differ]

theorem Script.answersFor_fields (dependencies fields : List Answer) :
    (Script.answering dependencies fields).answersFor EnforcedField.query =
      fields.map fun answer => { first := some answer } := by
  simp [answersFor, answering]

theorem Script.serves_answering (dependencies fields : List Answer) :
    (Script.answering dependencies fields).Serves dependencies fields where
  consults _ := rfl
  dependencyQuery := rfl
  fieldQuery := rfl
  dependencies := by
    rw [dependencyAnswers, pendingFor_of_silent rfl, answersFor_dependencies, heard_map]
  fields := by
    rw [fieldAnswers, pendingFor_of_silent rfl, answersFor_fields, heard_map]

namespace Policy

variable {project : Project} {rules : String} {script : Script} {dependencies fields : List Answer}

theorem conclude_of_serves {policy : Policy State} {main : Nat} {s : State}
    (serves : script.Serves dependencies fields) (fresh : s.pending.get main = []) :
    ((policy.conclude (thread script main)).result s).1 = do
      let dependencies ← dependencies.mapM policy.project.judgeDependency
      let fields ← fields.mapM policy.project.judgeField
      return ⟨dependencies.mergeSort EnforcedDependency.le, fields.mergeSort EnforcedField.le⟩ := by
  obtain ⟨_, dependencyQuery, fieldQuery, rfl, rfl⟩ := serves
  cases given : script.dependencyAnswers.mapM policy.project.judgeDependency with
  | error failure =>
      rw [Script.dependencyAnswers, ← fresh] at given
      have collected := @collect_result _ script main s
        (EnforcedDependency.ofBindings policy.project) EnforcedDependency.query
      simp only [dependencyQuery] at collected
      unfold Project.judgeDependency at given
      rw [given] at collected
      rw [conclude_of_error collected]
      rfl
  | ok found =>
      have after := @get_pending_afterDependencies script main s fresh
      rw [conclude_of_dependencies fresh dependencyQuery given]
      generalize (s.queried script main EnforcedDependency.query).pulled main _ = s' at after ⊢
      have collected := @collect_result _ script main s'
        (EnforcedField.ofBindings policy.project) EnforcedField.query
      simp only [fieldQuery, after] at collected
      rw [Action.result_bind, enforcedFields_result collected]
      unfold Script.fieldAnswers Project.judgeField
      cases (heard (script.pendingFor EnforcedField.query script.afterDependencies)).mapM
        (Answer.judge (EnforcedField.ofBindings policy.project)) <;> rfl

/-- **With an engine that serves, the answers alone decide what an evaluation gives.** -/
theorem evaluate_of_serves (serves : script.Serves dependencies fields) (w : World State) :
    ((scripted project rules script).evaluate.result w).1 = do
      let dependencies ← dependencies.mapM project.judgeDependency
      let fields ← fields.mapM project.judgeField
      return ⟨dependencies.mergeSort EnforcedDependency.le, fields.mergeSort EnforcedField.le⟩ := by
  rw [evaluate_result, program,
    Action.result_bind_ok _ (consults_accepted fun i _ => serves.consults _)]
  exact conclude_of_serves serves (State.get_pending_opened w.backend)

end Policy

end WorkspacePolicy
