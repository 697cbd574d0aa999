/-
# Proofs.Policy.Rows — sequences of rows and what their threads see

A sequence of rows is a sequence of answers on a thread that it gets at its first step: the main
thread of a session of its own, which has the program of the policy, or a further thread of a
session that others use as well. What that thread is to see is settled before
(`Sight.opening`), and from then on the thread alone decides what the rows are
(`Sight.nextRow`, `nextRow_follows`). With its last step a sequence closes the session that is
its own; giving it up does the same (`abandon_step`).
-/
import WorkspacePolicy.Policy.RowSequence
import WorkspacePolicy.Proofs.Session.Alone

namespace WorkspacePolicy

set_option autoImplicit false

/-- What a sequence is asked for. -/
inductive Request where
  | next
  | abandon

/-- A sequence of rows with what its thread sees in place of the thread. -/
inductive RowView (Seen : Type) where
  | fresh (opening : Except Failure Seen) (query : String)
  | running (answers : AnswerView Seen)
  | finished

namespace RowSequence

variable {σ : Type} {w : World σ}

/-! ## Evaluation -/

theorem finish_run (owned : Option (Session σ)) (last : Pull Row) (w : World σ) :
    (finish owned last).run w =
      match (release owned).result w with
      | (.ok (), w') => ((last, .finished), w')
      | (.error failure, w') => ((.failed failure, .finished), w') := by
  unfold finish
  rw [StateT.run_bind, Action.run_outcome]
  rcases (release owned).result w with ⟨_ | _, _⟩ <;> rfl

theorem ask_run (owned : Option (Session σ)) {answers answers' : AnswerSequence σ}
    {pull : Pull Bindings} {s' : σ}
    (stepped : answers.next.run w.backend = ((pull, answers'), s')) :
    (ask owned answers).run w =
      match pull.convert Row.ofBindings with
      | .item row => ((.item row, .running owned answers'), { w with backend := s' })
      | last => (finish owned last).run { w with backend := s' } := by
  have given : (ask owned answers).run w =
      (match ((answers.next.run w.backend).1.1).convert Row.ofBindings with
        | .item row => pure (.item row, .running owned (answers.next.run w.backend).1.2)
        | last => finish owned last : StateM (World σ) (Pull Row × RowSequence σ)).run
          { w with backend := (answers.next.run w.backend).2 } := rfl
  rw [given, stepped]
  rcases pull.convert Row.ofBindings <;> rfl

theorem next_fresh_run (policy : Policy σ) (query : String) (session : Option (Session σ))
    (w : World σ) : (next (.fresh policy query session)).run w =
      match (openThread policy session).result w with
      | (.ok (owned, thread), w') => (ask owned (.fresh thread query)).run w'
      | (.error failure, w') => ((.failed failure, .finished), w') := by
  rw [next, StateT.run_bind, Action.run_outcome]
  rcases (openThread policy session).result w with ⟨_ | _, _⟩ <;> rfl

/-! ## What a sequence relies on -/

/-- Its threads and sessions are those of an engine, and so will be a session of its own. -/
def On (engine : Engine σ) : RowSequence σ → Prop
  | .fresh policy _ none => ∀ e, policy.engine = .ok e → e = engine
  | .fresh _ _ (some session) => session.engine = engine
  | .running owned answers =>
    (∀ session, owned = some session → session.engine = engine) ∧ answers.On engine
  | .finished => True

/-- The session that is the sequence's own. -/
def ownedFootprint : Option (Session σ) → Footprint
  | none => .empty
  | some session => .ofSession session

def footprint : RowSequence σ → Footprint
  | .fresh _ _ none => .empty
  | .fresh _ _ (some session) => .ofShared session
  | .running owned answers => answers.footprint.add (ownedFootprint owned)
  | .finished => .empty

end RowSequence

namespace Sight

open RowSequence

variable {σ : Type} {v : Sight σ} {engine : Engine σ} {w : World σ}

/-- What the thread of a sequence is to see. -/
def opening (v : Sight σ) (w : World σ) (policy : Policy σ) :
    Option (Session σ) → Except Failure v.Seen
  | none =>
    match policy.engine with
    | .error fault => .error (.unknownEngine fault)
    | .ok engine =>
      .ok ([policy.project.linkage, engine.supportLibrary, policy.fullSource].foldl v.consulted
        v.opened)
  | some session =>
    if session.isClosed w then .error .sessionClosed
    else .ok (v.sees w.backend (.session session.inEngine))

/-- A row, from what the thread sees. -/
def askRow (v : Sight σ) (answers : AnswerView v.Seen) : Pull Row × RowView v.Seen :=
  match (v.next answers).1.convert Row.ofBindings with
  | .item row => (.item row, .running (v.next answers).2)
  | last => (last, .finished)

/-- A step of a sequence of rows, from what its thread sees. -/
def nextRow (v : Sight σ) : RowView v.Seen → Pull Row × RowView v.Seen
  | .fresh (.ok seen) query => v.askRow (.fresh seen query)
  | .fresh (.error failure) _ => (.failed failure, .finished)
  | .running answers => v.askRow answers
  | .finished => (.done, .finished)

/-- What there is of a sequence in a world. -/
def rowView (v : Sight σ) (w : World σ) : RowSequence σ → RowView v.Seen
  | .fresh policy query session => .fresh (v.opening w policy session) query
  | .running _ answers => .running (v.view w.backend answers)
  | .finished => .finished

/-- A sequence whose resources are the same is seen the same. -/
theorem rowView_congr {w' : World σ} {q : RowSequence σ}
    (same : ∀ r ∈ q.footprint.reads, v.Same w w' r) : v.rowView w' q = v.rowView w q := by
  match q with
  | .fresh _ _ none => rfl
  | .fresh policy query (some session) =>
      have flag : session.isClosed w' = session.isClosed w :=
        same (.flag session.number) (by simp [footprint, Footprint.ofShared])
      have seen : v.sees w'.backend (.session session.inEngine) =
          v.sees w.backend (.session session.inEngine) :=
        same (.part (.session session.inEngine)) (by simp [footprint, Footprint.ofShared])
      simp only [rowView, opening, flag, seen]
  | .running owned answers =>
      have seen := view_congr (q := answers) fun r mine => same r (List.mem_append_left _ mine)
      rw [rowView, seen, rowView]
  | .finished => rfl

/-! ## Opening -/

/-- A session of a policy has its program. -/
theorem createSession_step (separates : engine.Separates v) {policy : Policy σ}
    (of : policy.engine = .ok engine) (w : World σ) :
    ∃ session w', policy.createSession.result w = (.ok session, w') ∧
      session.engine = engine ∧ session.main.engine = engine ∧
      v.sees w'.backend (.thread session.main.number) =
        [policy.project.linkage, engine.supportLibrary, policy.fullSource].foldl v.consulted
          v.opened ∧
      v.Step w .empty w' ((Footprint.ofThread session.main.number).add (.ofSession session)) := by
  obtain ⟨⟨e, number, k, ⟨e', n⟩⟩, w₁, started, on, onMain, sees, home, step⟩ :=
    start_step separates w
  obtain ⟨rfl, rfl⟩ : e = engine ∧ e' = e := ⟨on, onMain.trans on.symm⟩
  have known : v.known w₁.backend (.thread n) :=
    step.holds (by simp [Holds, Footprint.all, Footprint.empty]) (.part (.thread n))
      (by simp [Footprint.all, Footprint.add, Footprint.ofThread])
  obtain ⟨s', consulted, looks, keeps⟩ := consults_follow separates
    [policy.project.linkage, e'.supportLibrary, policy.fullSource] known home
  rw [sees] at looks
  refine ⟨⟨e', number, k, ⟨e', n⟩⟩, { w₁ with backend := s' }, ?_, rfl, rfl, looks,
    step.trans separates.settled (.of_keeps keeps ?_)⟩
  · unfold Policy.createSession
    simp only [of]
    rw [Action.result_bind_ok _ started, Session.init, Action.result_bind, Action.result_onFailure,
      World.result_onBackend, Session.consultAll_eq_forM, consulted]
    rfl
  · rintro p _ (rfl | within)
    · exact .inl (by simp [Footprint.add, Footprint.ofThread])
    · exact .of_within within (by simp [Footprint.add, Footprint.ofSession])

/-- A thread that cannot be had leaves the world as it was. -/
theorem openThread_of_error {policy : Policy σ} {session : Option (Session σ)} {failure : Failure}
    (refused : v.opening w policy session = .error failure) :
    (openThread policy session).result w = (.error failure, w) := by
  cases session with
  | none =>
      cases of : policy.engine with
      | error fault =>
          obtain rfl : .unknownEngine fault = failure := by simpa [opening, of] using refused
          unfold openThread Policy.createSession
          simp only [of]
          rfl
      | ok e => simp [opening, of] at refused
  | some session =>
      cases closed : session.isClosed w with
      | true =>
          obtain rfl : .sessionClosed = failure := by simpa [opening, closed] using refused
          unfold openThread
          rw [Action.result_bind, Session.createThread_eq, closed]
          rfl
      | false => simp [opening, closed] at refused

/-- A thread that can be had sees what it is to see. -/
theorem openThread_of_ok (separates : engine.Separates v) {policy : Policy σ} {query : String}
    {session : Option (Session σ)} {seen : v.Seen}
    (on : (fresh policy query session).On engine)
    (held : v.Holds w (fresh policy query session).footprint)
    (granted : v.opening w policy session = .ok seen) :
    ∃ owned n w', (openThread policy session).result w = (.ok (owned, ⟨engine, n⟩), w') ∧
      (∀ session, owned = some session → session.engine = engine) ∧
      v.sees w'.backend (.thread n) = seen ∧
      v.Step w (fresh policy query session).footprint w'
        ((Footprint.ofThread n).add (ownedFootprint owned)) := by
  cases session with
  | none =>
      cases of : policy.engine with
      | error fault => simp [opening, of] at granted
      | ok e =>
          obtain rfl : e = engine := on e of
          simp only [opening, of, Except.ok.injEq] at granted
          obtain ⟨⟨e', number, k, ⟨e'', n⟩⟩, w', made, onSession, onMain, sees, step⟩ :=
            createSession_step separates of w
          obtain ⟨rfl, rfl⟩ : e' = e ∧ e'' = e' := ⟨onSession, onMain.trans onSession.symm⟩
          refine ⟨some ⟨e'', number, k, ⟨e'', n⟩⟩, n, w', ?_, ?_, sees.trans granted, step⟩
          · unfold openThread
            rw [Action.result_bind_ok _ made]
            rfl
          · rintro _ ⟨⟩
            rfl
  | some session =>
      cases closed : session.isClosed w with
      | true => simp [opening, closed] at granted
      | false =>
          obtain rfl : v.sees w.backend (.session session.inEngine) = seen := by
            simpa [opening, closed] using granted
          obtain ⟨n, s', made, sees, step⟩ := createThread_step separates on held closed
          refine ⟨none, n, _, ?_, by simp, sees, step.trans separates.settled
            (.of_subset ⟨by simp [Footprint.add, ownedFootprint, Footprint.empty],
              by simp [Footprint.add, ownedFootprint, Footprint.empty]⟩)⟩
          unfold openThread
          rw [Action.result_bind_ok _ made]
          rfl

/-! ## Steps of a sequence -/

section

variable {owned : Option (Session σ)} {answers : AnswerSequence σ} {f : Footprint}

/-- A sequence releases the session that is its own, and that succeeds. -/
theorem release_step (separates : engine.Separates v)
    (on : ∀ session, owned = some session → session.engine = engine) (held : v.Holds w f)
    (own : (ownedFootprint owned).owns ⊆ f.owns) :
    ∃ w', (release owned).result w = (.ok (), w') ∧ v.Step w f w' f := by
  cases owned with
  | none => exact ⟨w, rfl, .refl w f⟩
  | some session =>
      have known : v.Knows w (.part (.session session.inEngine)) :=
        held _ (List.mem_append_right _ (own List.mem_cons_self))
      exact close_step separates (on _ rfl) known own

/-- The last step of a sequence leaves it with nothing. -/
theorem finish_follows (separates : engine.Separates v)
    (on : ∀ session, owned = some session → session.engine = engine) (held : v.Holds w f)
    (own : (ownedFootprint owned).owns ⊆ f.owns) (last : Pull Row) :
    ∃ w', (finish owned last).run w = ((last, .finished), w') ∧ v.Step w f w' .empty := by
  obtain ⟨w', released, step⟩ := release_step separates on held own
  refine ⟨w', ?_, step.trans separates.settled (.of_subset (Footprint.empty_subset f))⟩
  rw [finish_run, released]

/-- **A row is what the thread of its sequence alone decides.** -/
theorem askRow_follows (separates : engine.Separates v) (on : (running owned answers).On engine)
    (held : v.Holds w (running owned answers).footprint) :
    ∃ q' w', (RowSequence.ask owned answers).run w =
        (((v.askRow (v.view w.backend answers)).1, q'), w') ∧
      q'.On engine ∧ v.rowView w' q' = (v.askRow (v.view w.backend answers)).2 ∧
      v.Step w (running owned answers).footprint w' q'.footprint := by
  obtain ⟨answers', s', stepped, on', shows, step⟩ := next_follows separates on.2 held.of_add
  have told := step.frame (ownedFootprint owned)
  have finishes := finish_follows separates on.1 (told.holds held)
    (List.subset_append_right answers'.footprint.owns _)
  rw [RowSequence.ask_run owned stepped]
  unfold askRow
  cases (v.next (v.view w.backend answers)).1.convert Row.ofBindings with
  | item row =>
      exact ⟨_, _, rfl, ⟨on.1, on'⟩, congrArg RowView.running shows, told⟩
  | done =>
      obtain ⟨w', finished, last⟩ := finishes .done
      exact ⟨_, w', finished, trivial, rfl, told.trans separates.settled last⟩
  | failed failure =>
      obtain ⟨w', finished, last⟩ := finishes (.failed failure)
      exact ⟨_, w', finished, trivial, rfl, told.trans separates.settled last⟩

end

/-- **A sequence of rows gives what its thread alone decides.** -/
theorem nextRow_follows (separates : engine.Separates v) {q : RowSequence σ} (on : q.On engine)
    (held : v.Holds w q.footprint) :
    ∃ q' w', q.next.run w = (((v.nextRow (v.rowView w q)).1, q'), w') ∧
      q'.On engine ∧ v.rowView w' q' = (v.nextRow (v.rowView w q)).2 ∧
      v.Step w q.footprint w' q'.footprint := by
  cases q with
  | fresh policy query session =>
      rw [RowSequence.next_fresh_run]
      cases opens : v.opening w policy session with
      | error failure =>
          rw [openThread_of_error opens]
          simp only [rowView, opens, nextRow]
          exact ⟨_, w, rfl, trivial, rfl, .of_subset (Footprint.empty_subset _)⟩
      | ok seen =>
          obtain ⟨owned, n, w₁, opened, onOwned, sees, step⟩ :=
            openThread_of_ok separates on held opens
          have onAnswers : (running owned (.fresh ⟨engine, n⟩ query)).On engine :=
            ⟨onOwned, fun t has => by cases has; rfl⟩
          obtain ⟨q', w', asked, on', shows, later⟩ :=
            askRow_follows separates onAnswers (step.holds held)
          rw [opened]
          simp only [rowView, opens, nextRow]
          rw [view, sees] at asked shows
          exact ⟨q', w', asked, on', shows, step.trans separates.settled later⟩
  | running owned answers => exact askRow_follows separates on held
  | finished => exact ⟨.finished, w, rfl, trivial, rfl, .refl _ _⟩

/-- Giving a sequence up succeeds and leaves it with nothing. -/
theorem abandon_step (separates : engine.Separates v) {q : RowSequence σ} (on : q.On engine)
    (held : v.Holds w q.footprint) :
    ∃ w', q.abandon.result w = (.ok (), w') ∧ v.Step w q.footprint w' .empty := by
  have nothing : v.Step w q.footprint w .empty := .of_subset (Footprint.empty_subset _)
  cases q with
  | fresh policy query session => exact ⟨w, rfl, nothing⟩
  | running owned answers =>
      obtain ⟨w', released, step⟩ := release_step separates on.1 held
        (List.subset_append_right answers.footprint.owns _)
      exact ⟨w', released, step.trans separates.settled (.of_subset (Footprint.empty_subset _))⟩
  | finished => exact ⟨w, rfl, nothing⟩

end Sight

end WorkspacePolicy
