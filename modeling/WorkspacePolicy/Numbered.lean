/-
# Numbered — entries with numbers in order of creation

A table gives every number an entry. Entries are added at the end and changed in
place; a number that has not been given out yet has the entry that the table started
with.
-/

namespace WorkspacePolicy

set_option autoImplicit false

/-- Entries under the numbers below `size`; every further number has an entry as well. -/
structure Numbered (α : Type) where
  size : Nat
  get : Nat → α

namespace Numbered

variable {α : Type}

/-- The table without entries. -/
def empty (unused : α) : Numbered α := ⟨0, fun _ => unused⟩

/-- Changes the entry of a number. -/
def set (t : Numbered α) (n : Nat) (entry : α) : Numbered α :=
  ⟨t.size, fun k => if k = n then entry else t.get k⟩

/-- Adds an entry, under the number `t.size`. -/
def add (t : Numbered α) (entry : α) : Numbered α :=
  ⟨t.size + 1, (t.set t.size entry).get⟩

@[simp] theorem size_set (t : Numbered α) (n : Nat) (entry : α) : (t.set n entry).size = t.size :=
  rfl

@[simp] theorem size_add (t : Numbered α) (entry : α) : (t.add entry).size = t.size + 1 :=
  rfl

theorem get_set (t : Numbered α) (n k : Nat) (entry : α) :
    (t.set n entry).get k = if k = n then entry else t.get k :=
  rfl

theorem get_add (t : Numbered α) (k : Nat) (entry : α) :
    (t.add entry).get k = if k = t.size then entry else t.get k :=
  rfl

@[simp] theorem get_set_self (t : Numbered α) (n : Nat) (entry : α) :
    (t.set n entry).get n = entry := by
  simp [get_set]

/-- Only the last change of an entry counts. -/
@[simp] theorem set_set (t : Numbered α) (n : Nat) (first last : α) :
    (t.set n first).set n last = t.set n last := by
  simp only [set, mk.injEq, true_and]
  funext k
  split <;> rfl

@[simp] theorem set_get_self (t : Numbered α) (n : Nat) : t.set n (t.get n) = t := by
  cases t with
  | mk size get =>
      simp only [set, mk.injEq, true_and]
      funext k
      split
      · next same => rw [same]
      · rfl

@[simp] theorem get_add_size (t : Numbered α) (entry : α) : (t.add entry).get t.size = entry := by
  simp [get_add]

end Numbered

end WorkspacePolicy
