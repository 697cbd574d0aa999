/-
# Proofs.Session.Owned — the only session of a watched engine

A session that is started on an engine without sessions is the only one, and it stays open while
its threads work (`OnlyOpen`). Closing it, and a program of its own that is refused, leave no
session open, and no session is closed twice (`AllClosed`).

Whether a session is started at all depends on the engine alone (`Engine.session?`). A policy
whose engine gives one hands it out open or has closed it, and otherwise there is none
(`createSession_watched`).
-/
import WorkspacePolicy.Proofs.Engine.Watched

namespace WorkspacePolicy

set_option autoImplicit false

/-- The session that an engine gives from a state once it is set up, unless one of the two
fails. -/
def Engine.session? {σ : Type} (engine : Engine σ) (s : σ) : Option Nat :=
  ((engine.setup >>= fun _ => engine.createSession).result s).1.toOption.map Opening.session

/-- The session that the engine of a policy gives from a state, if there is an engine. -/
def Policy.session? {σ : Type} (policy : Policy σ) (s : σ) : Option Nat :=
  policy.engine.toOption.bind fun engine => engine.session? s

/-- Watching an engine does not change whether it gives a session. -/
theorem Engine.session?_watched {σ : Type} (engine : Engine σ) (s : Watched σ) :
    engine.watched.session? s = engine.session? s.state := by
  rw [session?, session?, Action.result_bind, Action.result_bind]
  simp only [Engine.watched, logged_result]
  rcases engine.setup.result s.state with ⟨_ | _, s'⟩ <;> rfl

namespace Session

variable {σ : Type} {engine : Engine σ} {session : Session (Watched σ)} {w w' : World (Watched σ)}

/-- No session was created or closed. -/
structure NoneYet (w : World (Watched σ)) : Prop where
  created : w.backend.created = []
  closed : w.backend.closed = []

/-- The session is open, and it is the only one that was created. -/
structure OnlyOpen (engine : Engine σ) (session : Session (Watched σ)) (w : World (Watched σ)) :
    Prop where
  engine : session.engine = engine.watched
  isOpen : session.isClosed w = false
  created : w.backend.created = [session.inEngine]
  closed : w.backend.closed = []

/-- Only the session `number?` was created, if any, and it has been closed once. -/
structure AllClosed (number? : Option Nat) (w : World (Watched σ)) : Prop where
  created : w.backend.created = number?.toList
  closed : w.backend.closed = number?.toList

theorem NoneYet.allClosed (noneYet : NoneYet w) : AllClosed none w :=
  ⟨noneYet.created, noneYet.closed⟩

theorem OnlyOpen.after_work (only : OnlyOpen engine session w) {s : Watched σ}
    (same : w.backend.SameSessions s) : OnlyOpen engine session { w with backend := s } :=
  ⟨only.engine, only.isOpen, same.created.trans only.created, same.closed.trans only.closed⟩

theorem allClosed_of_close (only : OnlyOpen engine session w) :
    AllClosed (some session.inEngine) (session.close.result w).2 := by
  obtain ⟨created, closed⟩ := close_watched engine w.backend session.inEngine
  rw [close_eq, only.isOpen, only.engine]
  constructor
  · simp [created, only.created]
  · simp [closed, only.closed]

/-- A session that the engine gives is the only one; if it gives none, there is none. -/
theorem start_watched (engine : Engine σ) (noneYet : NoneYet w) :
    match (start engine.watched).result w with
    | (.ok session, w') => engine.session? w.backend.state = some session.inEngine ∧
        OnlyOpen engine session w' ∧ session.main.engine = engine.watched
    | (.error _, w') => engine.session? w.backend.state = none ∧ NoneYet w' := by
  have ready := setup_sameSessions engine w.backend
  rw [← Engine.session?_watched, Engine.session?, Action.result_bind]
  unfold start
  rw [Action.result_bind, World.result_onBackend]
  rcases setup : engine.watched.setup.result w.backend with ⟨_ | _, s⟩ <;> rw [setup] at ready
  · exact ⟨rfl, ready.created.trans noneYet.created, ready.closed.trans noneYet.closed⟩
  · simp only [Action.result_bind, World.result_onBackend]
    rcases opens : engine.watched.createSession.result s with ⟨_ | opening, s'⟩
    · have same := ready.trans (createSession_of_error opens)
      exact ⟨rfl, same.created.trans noneYet.created, same.closed.trans noneYet.closed⟩
    · obtain ⟨created, closed⟩ := createSession_of_ok opens
      rw [ready.created, noneYet.created, List.nil_append] at created
      exact ⟨rfl, ⟨rfl, Numbered.get_add_size w.closed false, created,
        closed.trans (ready.closed.trans noneYet.closed)⟩, rfl⟩

/-- A session whose program is refused is closed by that. -/
theorem init_watched (only : OnlyOpen engine session w)
    (onMain : session.main.engine = engine.watched) (linkage source : String) :
    match (session.init linkage source).result w with
    | (.ok _, w') => OnlyOpen engine session w'
    | (.error _, w') => AllClosed (some session.inEngine) w' := by
  have consulted := consults_sameSessions (s := w.backend) onMain
    [linkage, session.engine.supportLibrary, source]
  rw [init, Action.result_onFailure, World.result_onBackend, consultAll_eq_forM]
  rcases taken : (forM [linkage, session.engine.supportLibrary, source]
    session.main.consult : Action (Watched σ) PUnit).result w.backend with ⟨failure | _, s⟩ <;>
    rw [taken] at consulted
  · have closes := allClosed_of_close (only.after_work consulted)
    simp only
    rcases closed : session.close.result { w with backend := s } with ⟨_ | _, w'⟩ <;>
      rw [closed] at closes
    · exact closes
    · exact closes
  · exact only.after_work consulted

end Session

/-- A policy whose engine gives a session hands it out, open, or has closed it; if the engine gives
none, there is none. -/
theorem Policy.createSession_watched {σ : Type} (policy : Policy σ) {w : World (Watched σ)}
    (noneYet : Session.NoneYet w) :
    match policy.watched.createSession.result w with
    | (.ok session, w') => policy.session? w.backend.state = some session.inEngine ∧
        ∃ engine : Engine σ, Session.OnlyOpen engine session w' ∧
          session.main.engine = engine.watched
    | (.error _, w') => Session.AllClosed (policy.session? w.backend.state) w' := by
  unfold createSession session?
  cases of : policy.engine with
  | error fault =>
      have unknown : policy.watched.engine = .error fault := by rw [watched, of]; rfl
      simp only [unknown]
      exact noneYet.allClosed
  | ok engine =>
      have known : policy.watched.engine = .ok engine.watched := by rw [watched, of]; rfl
      have started := Session.start_watched engine noneYet
      simp only [known, Except.toOption, Option.bind_some]
      rw [Action.result_bind]
      rcases starts : (Session.start engine.watched).result w with ⟨_ | session, w₁⟩ <;>
        rw [starts] at started
      · obtain ⟨none, noneYet⟩ := started
        rw [none]
        exact noneYet.allClosed
      · obtain ⟨given, only, onMain⟩ := started
        have prepared := Session.init_watched only onMain policy.watched.project.linkage
          policy.watched.fullSource
        rw [given]
        simp only [Action.result_bind]
        rcases inits : (session.init policy.watched.project.linkage
          policy.watched.fullSource).result w₁ with ⟨_ | _, w₂⟩ <;> rw [inits] at prepared
        · exact prepared
        · exact ⟨rfl, engine, prepared, onMain⟩

end WorkspacePolicy
