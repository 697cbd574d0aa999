/-
# Proofs.Diagnosis.Position — what positions do to a diagnosis

Merging a reading into a diagnosis sets parts of its place and nothing else. Each part is set to
what the last position for it tells, and keeps what it was where no position tells it
(`at?_merge`).
-/
import WorkspacePolicy.Diagnosis.Interpret

namespace WorkspacePolicy.Diagnosis

set_option autoImplicit false

variable {ρ : Type}

/-- One part of the place. -/
def at? (d : Diagnosis ρ) : PositionKey → Option ρ
  | .line => d.line
  | .column => d.column
  | .found => d.found

/-- What the last of some positions tells about one part of the place. -/
def lastOf? (key : PositionKey) (told : List (PositionKey × ρ)) : Option ρ :=
  ((told.filter fun p => p.1 == key).getLast?).map (·.2)

theorem lastOf?_cons (key : PositionKey) (p : PositionKey × ρ) (told : List (PositionKey × ρ)) :
    lastOf? key (p :: told) = (lastOf? key told).or (if p.1 = key then some p.2 else none) := by
  by_cases same : p.1 = key
  · cases others : told.filter fun p => p.1 == key with
    | nil => simp [lastOf?, same, others]
    | cons q rest =>
        obtain ⟨last, isLast⟩ : ∃ last, (q :: rest).getLast? = some last :=
          Option.isSome_iff_exists.mp (by simp)
        simp [lastOf?, same, others, List.getLast?_cons_cons, isLast]
  · simp [lastOf?, same]

theorem lastOf?_eq_getLast? (key : PositionKey) (told : List (PositionKey × ρ)) :
    lastOf? key told =
      (told.filterMap fun p => if p.1 = key then some p.2 else none).getLast? := by
  rw [lastOf?, ← List.getLast?_map, ← List.filterMap_eq_map, List.filterMap_filter]
  simp only [beq_iff_eq, Function.comp_apply]

theorem at?_setPosition (d : Diagnosis ρ) (key key' : PositionKey) (value : ρ) :
    (d.setPosition key value).at? key' = if key = key' then some value else d.at? key' := by
  cases key <;> cases key' <;> rfl

/-- What does not concern the place. -/
def unplaced (d : Diagnosis ρ) : Kind × String × List String := (d.kind, d.summary, d.notes)

/-- Two diagnoses are the same if they agree in every part of the place and in all else. -/
theorem eq_of_at? {d e : Diagnosis ρ} (place : ∀ key, d.at? key = e.at? key)
    (others : d.unplaced = e.unplaced) : d = e := by
  have line := place .line
  have column := place .column
  have found := place .found
  cases d
  cases e
  simp_all [at?, unplaced]

theorem unplaced_setPosition (d : Diagnosis ρ) (key : PositionKey) (value : ρ) :
    (d.setPosition key value).unplaced = d.unplaced := by
  cases key <;> rfl

section

variable (told : List (PositionKey × ρ)) (d : Diagnosis ρ)

theorem unplaced_foldl_setPosition :
    (told.foldl (fun d p => d.setPosition p.1 p.2) d).unplaced = d.unplaced := by
  induction told generalizing d with
  | nil => rfl
  | cons p told ih => rw [List.foldl_cons, ih, unplaced_setPosition]

/-- The last position for a part decides. -/
theorem at?_foldl_setPosition (key : PositionKey) :
    (told.foldl (fun d p => d.setPosition p.1 p.2) d).at? key =
      (lastOf? key told).or (d.at? key) := by
  induction told generalizing d with
  | nil => rfl
  | cons p told ih =>
      rw [List.foldl_cons, ih, at?_setPosition, lastOf?_cons]
      cases lastOf? key told with
      | some value => rfl
      | none => by_cases same : p.1 = key <;> simp [same]

end

theorem unplaced_merge (d : Diagnosis Reading) (r : Reading) : (d.merge r).unplaced = d.unplaced :=
  unplaced_foldl_setPosition (positions r) d

theorem at?_merge (d : Diagnosis Reading) (r : Reading) (key : PositionKey) :
    (d.merge r).at? key = (lastOf? key (positions r)).or (d.at? key) :=
  at?_foldl_setPosition (positions r) d key

theorem kind_merge (d : Diagnosis Reading) (r : Reading) : (d.merge r).kind = d.kind :=
  congrArg Prod.fst (unplaced_merge d r)

end WorkspacePolicy.Diagnosis
