/-
# Session.Pull — sequences that are pulled item by item

A sequence is a state with a step that gives an item, the end or a failure, and the
state after it. `drain` takes the items up to the end or the first failure.
-/
import WorkspacePolicy.Engine.Failure

namespace WorkspacePolicy

set_option autoImplicit false

/-- What one step of a sequence gives. -/
inductive Pull (α : Type) where
  | item (value : α)
  | done
  | failed (failure : Failure)

namespace Pull

variable {α β : Type}

/-- Converts an item; a conversion that fails is a failure of the step. -/
def convert (f : α → Except Failure β) : Pull α → Pull β
  | .item value =>
    match f value with
    | .ok converted => .item converted
    | .error failure => .failed failure
  | .done => .done
  | .failed failure => .failed failure

end Pull

/-- The items of a sequence, and the failure that ended it if one did. -/
structure Drained (α : Type) where
  items : List α
  failure : Option Failure

namespace Drained

variable {α : Type}

/-- One more item in front. -/
def cons (value : α) (d : Drained α) : Drained α :=
  { d with items := value :: d.items }

/-- The items, unless a failure ended the sequence. -/
def toExcept (d : Drained α) : Except Failure (List α) :=
  match d.failure with
  | none => .ok d.items
  | some failure => .error failure

end Drained

namespace Pull

variable {σ τ α : Type}

/-- Takes items in at most `fuel` steps. -/
def drain (next : τ → StateM σ (Pull α × τ)) : Nat → τ → StateM σ (Drained α × τ)
  | 0, s => pure (⟨[], some .endless⟩, s)
  | fuel + 1, s => do
    match ← next s with
    | (.item value, s) =>
      let (rest, s) ← drain next fuel s
      return (rest.cons value, s)
    | (.done, s) => return (⟨[], none⟩, s)
    | (.failed failure, s) => return (⟨[], some failure⟩, s)

/-- Takes all items. After the first step `remaining` bounds the number of items that are
left, and one more step ends the sequence. -/
def drainAll (next : τ → StateM σ (Pull α × τ)) (remaining : τ → σ → Nat) (s : τ) :
    StateM σ (Drained α × τ) := do
  match ← next s with
  | (.item value, s) =>
    let state ← get
    let (rest, s) ← drain next (remaining s state + 1) s
    return (rest.cons value, s)
  | (.done, s) => return (⟨[], none⟩, s)
  | (.failed failure, s) => return (⟨[], some failure⟩, s)

end Pull

end WorkspacePolicy
