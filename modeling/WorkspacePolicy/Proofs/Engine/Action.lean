/-
# Proofs.Engine.Action — what an action gives and which state it leaves

`Action.result` is the outcome of an action together with the state after it. It commutes
with everything actions are built from, so that an action is evaluated by rewriting, step
by step and without opening the monads below it. A failure ends an action early and gives no
state back.
-/
import WorkspacePolicy.Session.Basic

namespace WorkspacePolicy

set_option autoImplicit false

namespace Action

variable {σ τ α β : Type}

@[simp] theorem result_pure (value : α) (s : σ) :
    (pure value : Action σ α).result s = (.ok value, s) := rfl

@[simp] theorem result_throw (failure : Failure) (s : σ) :
    (throw failure : Action σ α).result s = (.error failure, s) := rfl

theorem result_bind (first : Action σ α) (next : α → Action σ β) (s : σ) :
    (first >>= next).result s =
      match first.result s with
      | (.ok value, s) => (next value).result s
      | (.error failure, s) => (.error failure, s) := by
  have opened : (first >>= next).result s =
      (ExceptT.bindCont next (first.result s).1).run (first.result s).2 := rfl
  rw [opened]
  rcases first.result s with ⟨_ | _, s⟩ <;> rfl

theorem result_bind_ok {first : Action σ α} {value : α} {s s' : σ} (next : α → Action σ β)
    (given : first.result s = (.ok value, s')) :
    (first >>= next).result s = (next value).result s' := by
  rw [result_bind, given]

theorem result_bind_error {first : Action σ α} {failure : Failure} {s s' : σ}
    (next : α → Action σ β) (given : first.result s = (.error failure, s')) :
    (first >>= next).result s = (.error failure, s') := by
  rw [result_bind, given]

/-- A relation that holds along each of two actions holds along both. -/
theorem related_bind {R : σ → σ → Prop} (trans : ∀ {a b c : σ}, R a b → R b c → R a c)
    {first : Action σ α} {next : α → Action σ β} {s : σ} (along : R s (first.result s).2)
    (after : ∀ value s', first.result s = (.ok value, s') → R s' ((next value).result s').2) :
    R s ((first >>= next).result s).2 := by
  rw [result_bind]
  rcases given : first.result s with ⟨failure | value, s'⟩
  · rw [given] at along
    exact along
  · rw [given] at along
    exact trans along (after value s' given)

@[simp] theorem result_get (s : σ) : (get : Action σ σ).result s = (.ok s, s) := rfl

@[simp] theorem result_set (s s' : σ) : (set s' : Action σ PUnit).result s = (.ok ⟨⟩, s') := rfl

@[simp] theorem result_modify (f : σ → σ) (s : σ) :
    (modify f : Action σ PUnit).result s = (.ok ⟨⟩, f s) := rfl

@[simp] theorem result_onPart (action : Action σ α) (read : τ → σ) (write : σ → τ → τ) (s : τ) :
    (action.onPart read write).result s =
      ((action.result (read s)).1, write (action.result (read s)).2 s) := rfl

/-- What cannot fail is an action that does not. -/
theorem result_lift (action : StateM σ α) (s : σ) : Action.result (ExceptT.lift action) s =
    (.ok (action.run s).1, (action.run s).2) := rfl

theorem result_mk (action : StateM σ (Except Failure α)) (s : σ) :
    Action.result (ExceptT.mk action) s = action.run s := rfl

@[simp] theorem run_outcome (action : Action σ α) (s : σ) :
    action.outcome.run s = action.result s := rfl

/-- What comes last decides only by a failure of its own. -/
theorem result_andFinally (action : Action σ α) (last : Action σ Unit) (s : σ) :
    (action.andFinally last).result s =
      match last.result (action.result s).2 with
      | (.ok (), s') => ((action.result s).1, s')
      | (.error failure, s') => (.error failure, s') := by
  rw [andFinally, result_mk, StateT.run_bind, run_outcome]
  show (_ >>= _ : StateM σ _).run _ = _
  rw [StateT.run_bind, run_outcome]
  rcases last.result (action.result s).2 with ⟨_ | _, _⟩ <;> rfl

/-- The cleanup sees the state in which the action failed, and no other. -/
theorem result_onFailure (action : Action σ α) (cleanup : Action σ Unit) (s : σ) :
    (action.onFailure cleanup).result s =
      match action.result s with
      | (.ok value, s) => (.ok value, s)
      | (.error failure, s) =>
        match cleanup.result s with
        | (.ok (), s) => (.error failure, s)
        | (.error later, s) => (.error later, s) := by
  rw [onFailure, result_mk, StateT.run_bind, run_outcome]
  rcases action.result s with ⟨failure | value, s⟩
  · -- Only here is the cleanup run.
    show (_ >>= _ : StateM σ _).run _ = _
    rw [StateT.run_bind, run_outcome]
    simp only []
    rcases cleanup.result s with ⟨_ | _, _⟩ <;> rfl
  · rfl

end Action

namespace World

variable {σ α : Type}

@[simp] theorem result_onBackend (action : Action σ α) (w : World σ) :
    (onBackend action).result w =
      ((action.result w.backend).1, { w with backend := (action.result w.backend).2 }) := rfl

end World

end WorkspacePolicy
