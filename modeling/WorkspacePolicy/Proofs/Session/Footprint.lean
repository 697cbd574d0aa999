/-
# Proofs.Session.Footprint — what a user of the world relies on and may change

Several users share a world. Each relies on some resources and has some of its own
(`Footprint`): threads and sessions of the engine, and the flags that say which sessions are
closed. A step of a user (`Sight.Step`) changes nothing that was there but what is its own and
the threads of its own sessions (`Sight.Writes`), and whatever it relies on or has after the step
it relied on or had before, or it is new.

So a user whose resources nobody else writes (`Sight.Spares`) finds them unchanged after the steps
of others (`Step.same_of_spares`), and users that spare each other go on to do so
(`Step.spares_mover`, `Step.spares_idle`, `Step.spares_others`).
-/
import WorkspacePolicy.Proofs.Engine.Separation
import WorkspacePolicy.Session.Basic

namespace WorkspacePolicy

set_option autoImplicit false

/-- A part of the engine, or the flag of a session. -/
inductive Resource where
  | part (p : Part)
  | flag (number : Nat)

/-- The resources that a user of the world reads and those that are its own. -/
structure Footprint where
  reads : List Resource
  owns : List Resource

namespace Footprint

/-- Nothing. -/
def empty : Footprint := ⟨[], []⟩

/-- A thread of one's own. -/
def ofThread (n : Nat) : Footprint := ⟨[.part (.thread n)], [.part (.thread n)]⟩

variable {σ : Type}

/-- A session of one's own. -/
def ofSession (session : Session σ) : Footprint :=
  ⟨[], [.part (.session session.inEngine), .flag session.number]⟩

/-- A session that others use as well. -/
def ofShared (session : Session σ) : Footprint :=
  ⟨[.part (.session session.inEngine), .flag session.number], []⟩

def add (f g : Footprint) : Footprint := ⟨f.reads ++ g.reads, f.owns ++ g.owns⟩

/-- All resources. -/
def all (f : Footprint) : List Resource := f.reads ++ f.owns

/-- One footprint has no more than another. -/
instance : HasSubset Footprint := ⟨fun f g => f.reads ⊆ g.reads ∧ f.owns ⊆ g.owns⟩

theorem subset_refl (f : Footprint) : f ⊆ f := ⟨List.Subset.refl _, List.Subset.refl _⟩

theorem empty_subset (f : Footprint) : empty ⊆ f := ⟨List.nil_subset _, List.nil_subset _⟩

end Footprint

namespace Sight

variable {σ : Type} {v : Sight σ} {w w' w'' : World σ} {f f' f'' g g' : Footprint}

/-- The resource is there. -/
def Knows (v : Sight σ) (w : World σ) : Resource → Prop
  | .part p => v.known w.backend p
  | .flag number => number < w.closed.size

/-- A resource is in two worlds the same. -/
def Same (v : Sight σ) (w w' : World σ) : Resource → Prop
  | .part p => v.sees w'.backend p = v.sees w.backend p
  | .flag number => w'.closed.get number = w.closed.get number

/-- Everything of a user is there. -/
def Holds (v : Sight σ) (w : World σ) (f : Footprint) : Prop := ∀ r ∈ f.all, v.Knows w r

theorem Holds.of_add (held : v.Holds w (f.add g)) : v.Holds w f := by
  intro r mine
  rcases List.mem_append.mp mine with read | own
  · exact held r (List.mem_append_left _ (List.mem_append_left _ read))
  · exact held r (List.mem_append_right _ (List.mem_append_left _ own))

/-- What a user may change: its own, and the threads of its own sessions. -/
def Writes (v : Sight σ) (w : World σ) (f : Footprint) (r : Resource) : Prop :=
  r ∈ f.owns ∨
    ∃ n k, r = .part (.thread n) ∧ v.belongs w.backend n k ∧ .part (.session k) ∈ f.owns

theorem Writes.of_within {k : Nat} {p : Part} (inside : v.Within w.backend k p)
    (own : .part (.session k) ∈ f.owns) : v.Writes w f (.part p) := by
  cases p with
  | thread n => exact .inr ⟨n, k, rfl, inside, own⟩
  | session l => exact .inl (inside ▸ own)

/-- One user changes nothing that another relies on. -/
def Spares (v : Sight σ) (w : World σ) (f g : Footprint) : Prop :=
  ∀ r ∈ g.reads, ¬ v.Writes w f r

/-- What is on the second list was on the first, or it is new. -/
def Gains (v : Sight σ) (w w' : World σ) (before after : List Resource) : Prop :=
  ∀ r ∈ after, r ∈ before ∨ ¬ v.Knows w r ∧ v.Knows w' r

namespace Gains

variable {before between after : List Resource}

theorem of_subset (sub : after ⊆ before) : v.Gains w w' before after :=
  fun _ mine => .inl (sub mine)

theorem trans (knows : ∀ {r}, v.Knows w r → v.Knows w' r)
    (knowsLater : ∀ {r}, v.Knows w' r → v.Knows w'' r) (early : v.Gains w w' before between)
    (late : v.Gains w' w'' between after) : v.Gains w w'' before after := by
  intro r mine
  rcases late r mine with old | ⟨fresh, there⟩
  · exact (early r old).imp_right (And.imp_right knowsLater)
  · exact .inr ⟨fun old => fresh (knows old), there⟩

theorem append (gains : v.Gains w w' before after) (besides : List Resource) :
    v.Gains w w' (before ++ besides) (after ++ besides) := by
  intro r mine
  rcases List.mem_append.mp mine with mine | other
  · exact (gains r mine).imp_left (List.mem_append_left _)
  · exact .inl (List.mem_append_right _ other)

theorem knows (gains : v.Gains w w' before after) (keeps : ∀ {r}, v.Knows w r → v.Knows w' r)
    (held : ∀ r ∈ before, v.Knows w r) : ∀ r ∈ after, v.Knows w' r :=
  fun r mine => (gains r mine).elim (fun old => keeps (held r old)) And.right

end Gains

/-- A step of a user, who has the first footprint before it and the second after it. -/
structure Step (v : Sight σ) (w : World σ) (f : Footprint) (w' : World σ) (f' : Footprint) :
    Prop where
  knows : ∀ {r}, v.Knows w r → v.Knows w' r
  belongs : ∀ {n k}, v.Knows w (.part (.thread n)) → v.belongs w'.backend n k →
    v.belongs w.backend n k
  same : ∀ {r}, v.Knows w r → ¬ v.Writes w f r → v.Same w w' r
  reads : v.Gains w w' f.reads f'.reads
  owns : v.Gains w w' f.owns f'.owns
  /-- A further thread is one of a session that is new as well or that was relied on. -/
  home : ∀ {n k}, .part (.thread n) ∈ f'.reads → .part (.thread n) ∉ f.reads →
    v.belongs w'.backend n k →
      .part (.session k) ∈ f.reads ∨ ¬ v.Knows w (.part (.session k))

theorem Same.trans {r : Resource} (early : v.Same w w' r) (late : v.Same w' w'' r) :
    v.Same w w'' r := by
  cases r <;> exact Eq.trans late early

namespace Step

/-- What is written after a step was written before it, or was not there. -/
theorem writes (step : v.Step w f w' f') (settled : v.Settled) {r : Resource}
    (there : v.Knows w r) (written : v.Writes w' f' r) : v.Writes w f r := by
  rcases written with mine | ⟨n, k, rfl, member, mine⟩
  · exact .inl ((step.owns r mine).resolve_right fun fresh => fresh.1 there)
  · have before := step.belongs there member
    exact .inr ⟨n, k, rfl, before,
      (step.owns _ mine).resolve_right fun fresh => fresh.1 (settled before)⟩

theorem holds (step : v.Step w f w' f') (held : v.Holds w f) : v.Holds w' f' := by
  intro r mine
  rcases List.mem_append.mp mine with read | own
  · exact step.reads.knows step.knows (fun r mine => held r (List.mem_append_left _ mine)) r read
  · exact step.owns.knows step.knows (fun r mine => held r (List.mem_append_right _ mine)) r own

/-- The user gives up a part of what it has. -/
theorem of_subset (sub : f' ⊆ f) : v.Step w f w f' where
  knows there := there
  belongs _ member := member
  same {r} _ _ := by cases r <;> rfl
  reads := .of_subset sub.1
  owns := .of_subset sub.2
  home mine other _ := absurd (sub.1 mine) other

theorem refl (w : World σ) (f : Footprint) : v.Step w f w f := of_subset f.subset_refl

theorem trans (settled : v.Settled) (early : v.Step w f w' f') (late : v.Step w' f' w'' f'') :
    v.Step w f w'' f'' where
  knows there := late.knows (early.knows there)
  belongs there member := early.belongs there (late.belongs (early.knows there) member)
  same there other :=
    Same.trans (early.same there other)
      (late.same (early.knows there) fun written => other (early.writes settled there written))
  reads := early.reads.trans early.knows late.knows late.reads
  owns := early.owns.trans early.knows late.knows late.owns
  home {n k} mine other member := by
    -- The thread was added by the first step or by the second; its session lies before that one.
    by_cases between : .part (.thread n) ∈ f'.reads
    · have there := ((early.reads _ between).resolve_left other).2
      exact early.home between other (late.belongs there member)
    · rcases late.home mine between member with relied | fresh
      · exact (early.reads _ relied).imp_right And.left
      · exact .inr fun before => fresh (early.knows before)

/-- What a user has besides stays as it is. -/
theorem frame (step : v.Step w f w' f') (g : Footprint) :
    v.Step w (f.add g) w' (f'.add g) where
  knows := step.knows
  belongs := step.belongs
  same there other := by
    refine step.same there fun written => other ?_
    rcases written with own | ⟨n, k, is, member, own⟩
    · exact .inl (List.mem_append_left _ own)
    · exact .inr ⟨n, k, is, member, List.mem_append_left _ own⟩
  reads := step.reads.append g.reads
  owns := step.owns.append g.owns
  home mine other member := by
    rcases List.mem_append.mp mine with mine | besides
    · exact (step.home mine (fun there => other (List.mem_append_left _ there)) member).imp_left
        (List.mem_append_left _)
    · exact absurd (List.mem_append_right _ besides) other

/-- A call of the engine that changes only what the user may change. -/
theorem of_keeps {changed : Part → Prop} {s' : σ} (keeps : v.Keeps changed w.backend s')
    (own : ∀ p, v.known w.backend p → changed p → v.Writes w f (.part p)) :
    v.Step w f { w with backend := s' } f where
  knows {r} there := by
    cases r with
    | part p => exact keeps.known there
    | flag number => exact there
  belongs there member := keeps.belongs there member
  same {r} there other := by
    cases r with
    | part p => exact keeps.sees there fun change => other (own p there change)
    | flag number => rfl
  reads := .of_subset (List.Subset.refl _)
  owns := .of_subset (List.Subset.refl _)
  home mine other _ := absurd mine other

/-- A change of a flag that is the user's own. -/
theorem of_flag {number : Nat} (value : Bool) (own : .flag number ∈ f.owns) :
    v.Step w f { w with closed := w.closed.set number value } f where
  knows {r} there := by cases r <;> exact there
  belongs _ member := member
  same {r} _ other := by
    cases r with
    | part p => rfl
    | flag m =>
        have apart : m ≠ number := fun same => other (.inl (same ▸ own))
        exact (Numbered.get_set ..).trans (if_neg apart)
  reads := .of_subset (List.Subset.refl _)
  owns := .of_subset (List.Subset.refl _)
  home mine other _ := absurd mine other

/-- The user changes nothing that was there and has only what is new. -/
theorem of_new (keeps : v.Keeps (fun _ => False) w.backend w'.backend)
    (flags : ∀ m < w.closed.size, m < w'.closed.size ∧ w'.closed.get m = w.closed.get m)
    (new : ∀ r ∈ f'.all, ¬ v.Knows w r ∧ v.Knows w' r)
    (home : ∀ {n k}, .part (.thread n) ∈ f'.reads → v.belongs w'.backend n k →
      .part (.session k) ∈ f.reads ∨ ¬ v.Knows w (.part (.session k))) :
    v.Step w f w' f' where
  knows {r} there := by
    cases r with
    | part p => exact keeps.known there
    | flag m => exact (flags m there).1
  belongs there member := keeps.belongs there member
  same {r} there _ := by
    cases r with
    | part p => exact keeps.sees there id
    | flag m => exact (flags m there).2
  reads r mine := .inr (new r (List.mem_append_left _ mine))
  owns r mine := .inr (new r (List.mem_append_right _ mine))
  home mine _ member := home mine member

/-! ## Users that spare each other -/

/-- What nobody else writes is the same after the step of another. -/
theorem same_of_spares (step : v.Step w f w' f') (held : v.Holds w g) (spares : v.Spares w f g) :
    ∀ r ∈ g.reads, v.Same w w' r :=
  fun r mine => step.same (held r (List.mem_append_left _ mine)) (spares r mine)

theorem spares_mover (step : v.Step w f w' f') (settled : v.Settled) (held : v.Holds w g)
    (spares : v.Spares w f g) : v.Spares w' f' g :=
  fun r mine written =>
    spares r mine (step.writes settled (held r (List.mem_append_left _ mine)) written)

/-- Two others keep out of each other's way. -/
theorem spares_others (step : v.Step w f w' f') (held : v.Holds w g') (spares : v.Spares w g g') :
    v.Spares w' g g' := by
  rintro r mine (own | ⟨n, k, rfl, member, own⟩)
  · exact spares r mine (.inl own)
  · have before := step.belongs (held _ (List.mem_append_left _ mine)) member
    exact spares _ mine (.inr ⟨n, k, rfl, before, own⟩)

/-- What the user has anew is out of the reach of the others. -/
theorem spares_idle (step : v.Step w f w' f') (heldMover : v.Holds w f) (held : v.Holds w g)
    (spares : v.Spares w g f) : v.Spares w' g f' := by
  have owned : ∀ {r}, r ∈ g.owns → v.Knows w r := fun own => held _ (List.mem_append_right _ own)
  -- A new thread could only be written by the owner of its session. That session is new as well,
  -- or the user relies on it, and the other spares it.
  rintro r mine written
  rcases step.reads r mine with before | ⟨fresh, _⟩
  · exact step.spares_others heldMover spares r before written
  · rcases written with own | ⟨n, k, rfl, member, own⟩
    · exact fresh (owned own)
    · have other : .part (.thread n) ∉ f.reads := fun before =>
        fresh (heldMover _ (List.mem_append_left _ before))
      rcases step.home mine other member with relied | unknown
      · exact spares _ relied (.inl own)
      · exact unknown (owned own)

end Step

end Sight

end WorkspacePolicy
