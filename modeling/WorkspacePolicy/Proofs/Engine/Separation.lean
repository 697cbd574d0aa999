/-
# Proofs.Engine.Separation — engines whose threads keep to themselves

What a thread sees (`Sight.sees`) decides how it takes a query and what it answers; all else in
the state of the engine is out of its reach. An engine separates its threads (`Engine.Separates`)
if nothing but their own calls changes what they see:

* a query and a request for an answer change what their thread sees;
* a consult changes it for the threads of a session of its thread, and a close for the threads
  of its session;
* a new thread sees what its session lets it see, and belongs to no other session.

Consults are accepted, sessions and threads can always be had, and closing succeeds. Queries and
answers may fail, as what the thread sees decides. An engine that plays a script is of this kind
if it accepts every consult (`Scripted.separates`).
-/
import WorkspacePolicy.Proofs.Engine.Scripted

namespace WorkspacePolicy

set_option autoImplicit false

/-- A thread or a session, by its number in the engine. -/
inductive Part where
  | thread (n : Nat)
  | session (k : Nat)

/-- What the threads of an engine see of its state, and how they go on from there. -/
structure Sight (σ : Type) where
  Seen : Type
  /-- The engine has given the number out. -/
  known : σ → Part → Prop
  /-- A thread is one of a session. -/
  belongs : σ → Nat → Nat → Prop
  /-- What a thread sees, and what a session lets a new thread see. -/
  sees : σ → Part → Seen
  /-- What the main thread of a new session sees. -/
  opened : Seen
  consulted : Seen → String → Seen
  queried : Seen → String → Except Failure Acknowledgement × Seen
  answered : Seen → Except Failure (Option Answer) × Seen

namespace Sight

variable {σ : Type} {v : Sight σ} {s s' s'' : σ} {n k : Nat}

/-- The sessions of threads are there. -/
def Settled (v : Sight σ) : Prop :=
  ∀ {s n k}, v.belongs s n k → v.known s (.session k)

/-- A session and its threads. -/
def Within (v : Sight σ) (s : σ) (k : Nat) : Part → Prop
  | .thread n => v.belongs s n k
  | .session l => l = k

/-- From one state to a later one only some parts see something else, and none that was there
goes to another session. -/
structure Keeps (v : Sight σ) (changed : Part → Prop) (s s' : σ) : Prop where
  known : ∀ {p}, v.known s p → v.known s' p
  belongs : ∀ {n k}, v.known s (.thread n) → v.belongs s' n k → v.belongs s n k
  sees : ∀ {p}, v.known s p → ¬ changed p → v.sees s' p = v.sees s p

/-- A thread is new, and it is one of this session at most. -/
structure Adds (v : Sight σ) (n k : Nat) (seen : v.Seen) (s s' : σ) : Prop where
  keeps : v.Keeps (fun _ => False) s s'
  new : ¬ v.known s (.thread n)
  known : v.known s' (.thread n)
  sees : v.sees s' (.thread n) = seen
  belongs : ∀ {l}, v.belongs s' n l → l = k

namespace Keeps

variable {changed changed' : Part → Prop}

theorem refl (changed : Part → Prop) (s : σ) : v.Keeps changed s s where
  known holds := holds
  belongs _ holds := holds
  sees _ _ := rfl

/-- Whatever the second half changes of parts that the first half found counts for both. -/
theorem trans (early : v.Keeps changed s s') (late : v.Keeps changed' s' s'')
    (among : ∀ p, v.known s p → changed' p → changed p) : v.Keeps changed s s'' where
  known holds := late.known (early.known holds)
  belongs holds member := early.belongs holds (late.belongs (early.known holds) member)
  sees holds other :=
    (late.sees (early.known holds) fun there => other (among _ holds there)).trans
      (early.sees holds other)

theorem mono (keeps : v.Keeps changed s s') (among : ∀ p, changed p → changed' p) :
    v.Keeps changed' s s' where
  known := keeps.known
  belongs := keeps.belongs
  sees holds other := keeps.sees holds fun there => other (among _ there)

/-- A session gets no further threads among those that were there. -/
theorem within (keeps : v.Keeps changed s s') {p : Part} (holds : v.known s p)
    (inside : v.Within s' k p) : v.Within s k p := by
  cases p with
  | thread n => exact keeps.belongs holds inside
  | session l => exact inside

end Keeps

end Sight

/-- Every thread of the engine answers from what it sees, and only its own calls and those of
its session change that. -/
structure Engine.Separates {σ : Type} (engine : Engine σ) (v : Sight σ) : Prop where
  settled : v.Settled
  setup : ∀ s, ∃ s', engine.setup.result s = (.ok (), s') ∧ v.Keeps (fun _ => False) s s'
  createSession : ∀ s, ∃ k n s', engine.createSession.result s = (.ok ⟨k, n⟩, s') ∧
    ¬ v.known s (.session k) ∧ v.known s' (.session k) ∧ v.Adds n k v.opened s s'
  createThread : ∀ {s k}, v.known s (.session k) → ∃ n s',
    (engine.createThread k).result s = (.ok n, s') ∧ v.Adds n k (v.sees s (.session k)) s s'
  close : ∀ {s k}, v.known s (.session k) → ∃ s',
    (engine.close k).result s = (.ok (), s') ∧ v.Keeps (v.Within s k) s s'
  consult : ∀ {s n} source, v.known s (.thread n) → ∃ given s',
    (engine.consult n source).result s = (.ok given, s') ∧ given.first = .accepted ∧
    v.sees s' (.thread n) = v.consulted (v.sees s (.thread n)) source ∧
    v.Keeps (fun p => p = .thread n ∨ ∃ k, v.belongs s n k ∧ v.Within s k p) s s'
  query : ∀ {s n} source, v.known s (.thread n) → ∃ given s',
    (engine.query n source).result s = (given, s') ∧
    (given.map Delivery.first, v.sees s' (.thread n)) = v.queried (v.sees s (.thread n)) source ∧
    v.Keeps (· = .thread n) s s'
  answer : ∀ {s n}, v.known s (.thread n) → ∃ given s',
    (engine.answer n).result s = (given, s') ∧
    (given.map Delivery.first, v.sees s' (.thread n)) = v.answered (v.sees s (.thread n)) ∧
    v.Keeps (· = .thread n) s s'

/-! ## Threads of an engine that plays a script -/

namespace Scripted

variable {script : Script} {s : State}

/-- A thread of a script sees its own pending answers. There is nothing that the threads of a
session share. -/
def sight (script : Script) : Sight State where
  Seen := List (Delivery (Option Answer))
  known s
    | .thread n => n < s.pending.size
    | .session k => k < s.sessions
  belongs _ _ _ := False
  sees s
    | .thread n => s.pending.get n
    | .session _ => []
  opened := []
  consulted seen _ := seen
  queried seen source := (.ok (script.acknowledgement source), script.pendingFor source seen)
  answered seen := (.ok (seen.head?.getD { first := none }).first, seen.drop 1)

/-- The calls leave the numbers alone that have been given out. -/
theorem keeps_of_state {changed : Part → Prop} {s' : State}
    (threads : s.pending.size ≤ s'.pending.size) (sessions : s.sessions ≤ s'.sessions)
    (pending : ∀ n < s.pending.size, ¬ changed (.thread n) →
      s'.pending.get n = s.pending.get n) : (sight script).Keeps changed s s' where
  known {p} holds := by
    cases p with
    | thread n => exact Nat.lt_of_lt_of_le holds threads
    | session k => exact Nat.lt_of_lt_of_le holds sessions
  belongs _ member := member
  sees {p} holds other := by
    cases p with
    | thread n => exact pending n holds other
    | session k => rfl

/-- Calls that only leave a trace change nothing for anyone. -/
theorem keeps_of_same {changed : Part → Prop} {s' : State} (pending : s'.pending = s.pending)
    (sessions : s'.sessions = s.sessions) : (sight script).Keeps changed s s' := by
  refine keeps_of_state (pending ▸ Nat.le_refl _) (Nat.le_of_eq sessions.symm) ?_
  intro n _ _
  rw [pending]

/-- What the engine sets for one thread is not for the others. -/
theorem keeps_of_set {n : Nat} {s' : State} {entry : List (Delivery (Option Answer))}
    (pending : s'.pending = s.pending.set n entry) (sessions : s'.sessions = s.sessions) :
    (sight script).Keeps (· = .thread n) s s' := by
  refine keeps_of_state (pending ▸ Nat.le_refl _) (Nat.le_of_eq sessions.symm) ?_
  intro m _ other
  rw [pending, Numbered.get_set, if_neg fun same => other (congrArg Part.thread same)]

/-- A thread that the engine adds has nothing pending. -/
theorem adds_of_add {k : Nat} {s' : State} (pending : s'.pending = s.pending.add [])
    (sessions : s.sessions ≤ s'.sessions) :
    (sight script).Adds s.pending.size k [] s s' where
  keeps := by
    refine keeps_of_state (pending ▸ Nat.le_succ _) sessions fun n below _ => ?_
    rw [pending, Numbered.get_add, if_neg (Nat.ne_of_lt below)]
  new := Nat.lt_irrefl _
  known := by
    show s.pending.size < s'.pending.size
    rw [pending]
    exact Nat.lt_succ_self _
  sees := by
    show s'.pending.get s.pending.size = []
    rw [pending, Numbered.get_add_size]
  belongs := False.elim

theorem acknowledgement_eq (source : String) : script.acknowledgement source =
    ((script.queryFor? source).getD Script.accepted).first := by
  unfold Script.acknowledgement
  cases script.queryFor? source <;> rfl

/-- **A script whose consults are all accepted keeps its threads apart.** -/
theorem separates (accepting : ∀ n, (script.consultAt n).first = .accepted) :
    (engine script).Separates (sight script) where
  settled := False.elim
  setup s := ⟨s.record .setup, rfl, keeps_of_same rfl rfl⟩
  createSession s :=
    ⟨s.sessions, s.pending.size, _, rfl, Nat.lt_irrefl _, Nat.lt_succ_self _,
      adds_of_add rfl (Nat.le_succ _)⟩
  createThread {s _} _ := ⟨s.pending.size, _, rfl, adds_of_add rfl (Nat.le_refl _)⟩
  close {s _} _ := ⟨s.record .close, rfl, keeps_of_same rfl rfl⟩
  consult {s n} source _ :=
    ⟨script.consultAt s.consulted, s.consults n [source], rfl, accepting _, rfl,
      keeps_of_same rfl rfl⟩
  query {s n} source _ :=
    ⟨_, _, query_result source,
      Prod.ext (congrArg Except.ok (acknowledgement_eq source).symm)
        (State.get_pending_queried s script n source),
      keeps_of_set rfl rfl⟩
  answer {s n} _ :=
    ⟨_, _, answer_result, congrArg (Prod.mk _) (State.get_pending_pulled s n 1),
      keeps_of_set rfl rfl⟩

end Scripted

end WorkspacePolicy
