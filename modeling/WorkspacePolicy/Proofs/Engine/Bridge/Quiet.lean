/-
# Proofs.Engine.Bridge.Quiet — sessions that are not used after their disposal

A session is used again when a goal after the disposal of its module names this module or a
query of one of its threads (`UsedAgain`). Closing leaves no query open (`close_quiet`), so that
as long as no goal is called about a session that was disposed of, its threads have nothing
left that could be asked for or stopped (`Quiet`).
-/
import WorkspacePolicy.Proofs.Engine.Bridge.Operations

namespace WorkspacePolicy.Bridge

set_option autoImplicit false

variable {s s' s'' : State} {n k l : Nat}

/-! ## Goals about a session -/

/-- The goal names the module of a session or a query of one of its threads. -/
def Goal.Uses (session : Nat) (goal : Goal) : Prop :=
  goal.NamesModule (moduleName session) ∨ ∃ a : Alias, a.session = session ∧ goal.NamesQuery a.text

theorem Goal.uses_iff (goal : Goal) :
    goal.Uses k ↔ goal.module? = some k ∨ ∃ a, a.session = k ∧ goal.query? = some a := by
  simp only [Uses, namesModule_iff, namesQuery_iff]

theorem Goal.BelongsTo.eq_of_uses {goal : Goal} {group changed : List Nat}
    (belongs : goal.BelongsTo k group changed) (uses : goal.Uses l) : l = k := by
  rw [Goal.uses_iff] at uses
  cases goal <;> simp_all [Goal.BelongsTo, Goal.module?, Goal.query?]

/-- After the disposal of a module, its session is used. -/
def UsedAgain (goals : List Goal) : Prop :=
  ∃ before k later, goals = before ++ .dispose k :: later ∧ ∃ g ∈ later, g.Uses k

theorem UsedAgain.append {goals : List Goal} (used : UsedAgain goals) (more : List Goal) :
    UsedAgain (goals ++ more) := by
  obtain ⟨before, k, later, rfl, g, member, uses⟩ := used
  exact ⟨before, k, later ++ more, by simp, g, List.mem_append_left _ member, uses⟩

theorem usedAgain_of_uses {goals : List Goal} {g : Goal} (disposed : .dispose k ∈ goals)
    (uses : g.Uses k) : UsedAgain (goals ++ [g]) := by
  obtain ⟨before, later, rfl⟩ := List.append_of_mem disposed
  exact ⟨before, k, later ++ [g], by simp, g, by simp, uses⟩

/-- Goals about a session that has not been disposed of use no session again. -/
theorem not_usedAgain_append {goals more : List Goal} (unused : ¬ UsedAgain goals)
    (undisposed : .dispose k ∉ goals) (about : ∀ g ∈ more, ∀ l, g.Uses l → l = k)
    (last : ∀ before later l, more = before ++ .dispose l :: later → later = []) :
    ¬ UsedAgain (goals ++ more) := by
  rintro ⟨before, l, later, parts, g, member, uses⟩
  rcases List.append_eq_append_iff.mp parts with ⟨middle, rfl, rest⟩ | ⟨middle, rfl, rest⟩
  · rw [last middle later l rest] at member
    cases member
  · cases middle with
    | nil =>
        rw [last [] later l rest.symm] at member
        cases member
    | cons e middle =>
        obtain ⟨rfl, rfl⟩ := List.cons.inj rest
        rcases List.mem_append.mp member with early | late
        · exact unused ⟨before, l, middle, by simp, g, early, uses⟩
        · obtain rfl := about g late l uses
          exact undisposed (by simp)

/-! ## Quiet states -/

/-- No session has been used again, and those that were disposed of have no query open. -/
structure Quiet (s : State) : Prop where
  known : ∀ k, .dispose k ∈ s.goals → k < s.sessions.size
  closed : ∀ k, .dispose k ∈ s.goals → (s.sessions.get k).closed = true
  idle : ∀ n k, n < s.threads.size → (s.threads.get n).session = k → .dispose k ∈ s.goals →
    (s.threads.get n).current = none
  unused : ¬ UsedAgain s.goals

/-- Sessions and threads are added and goals are called. -/
structure Extends (s s' : State) : Prop where
  sessionCount : s.sessions.size ≤ s'.sessions.size
  threadCount : s.threads.size ≤ s'.threads.size
  home : ∀ n, n < s.threads.size → (s'.threads.get n).session = (s.threads.get n).session
  goals : s.goals <+: s'.goals

theorem Extends.refl (s : State) : Extends s s :=
  ⟨Nat.le_refl _, Nat.le_refl _, fun _ _ => rfl, List.prefix_rfl⟩

theorem Extends.trans (first : Extends s s') (second : Extends s' s'') : Extends s s'' where
  sessionCount := Nat.le_trans first.sessionCount second.sessionCount
  threadCount := Nat.le_trans first.threadCount second.threadCount
  home n known :=
    (second.home n (Nat.lt_of_lt_of_le known first.threadCount)).trans (first.home n known)
  goals := first.goals.trans second.goals

section

variable {group : List Nat}

theorem Within.grows (within : Within k group [] s s') : Extends s s' := by
  obtain ⟨goals, added, -⟩ := within.goals_eq
  exact ⟨Nat.le_of_eq within.sessionCount.symm, Nat.le_of_eq within.threadCount.symm,
    fun n _ => within.home n, added ▸ List.prefix_append ..⟩

/-- Nothing is disposed of within threads. -/
theorem Within.disposed_iff (within : Within k group [] s s') :
    .dispose l ∈ s'.goals ↔ .dispose l ∈ s.goals := by
  obtain ⟨goals, added, -, belong⟩ := within.goals_eq
  rw [added, List.mem_append, or_iff_left]
  exact fun member => List.not_mem_nil (belong _ member).2

theorem Quiet.of_within (quiet : Quiet s) (within : Within k group [] s s')
    (homes : ∀ n ∈ group, (s.threads.get n).session = k) (undisposed : .dispose k ∉ s.goals) :
    Quiet s' := by
  refine ⟨fun l disposed => ?_, fun l disposed => ?_, fun n l known home disposed => ?_, ?_⟩
  · rw [within.sessionCount]
    exact quiet.known l (within.disposed_iff.mp disposed)
  · rw [within.sessions l List.not_mem_nil]
    exact quiet.closed l (within.disposed_iff.mp disposed)
  · have before := within.disposed_iff.mp disposed
    rw [within.threadCount] at known
    rw [within.home] at home
    have outside : n ∉ group := fun member => by
      rw [homes n member] at home
      exact undisposed (home ▸ before)
    rw [within.threads n outside]
    exact quiet.idle n l known home before
  · obtain ⟨goals, added, -, belong⟩ := within.goals_eq
    rw [added]
    refine not_usedAgain_append quiet.unused undisposed
      (fun g member l uses => (belong g member).eq_of_uses uses) ?_
    rintro before later l rfl
    exact absurd (belong (.dispose l) (by simp)).2 List.not_mem_nil

end

theorem closing_quiet (quiet : Quiet s) (k : Nat) : Quiet (s.closing k) := by
  refine ⟨quiet.known, fun l disposed => ?_, quiet.idle, quiet.unused⟩
  have entry : (s.closing k).sessions.get l =
      if l = k then { s.sessions.get k with closed := true } else s.sessions.get l :=
    Numbered.get_set ..
  rw [entry]
  split
  · rfl
  · exact quiet.closed l disposed

/-- Disposing of a module whose threads have no query uses no session again. -/
theorem disposing_quiet (quiet : Quiet s) (made : k < s.sessions.size)
    (undisposed : .dispose k ∉ s.goals)
    (idle : ∀ n < s.threads.size, (s.threads.get n).session = k →
      (s.threads.get n).current = none) :
    Quiet ((s.setSession k ⟨[], true⟩).called (.dispose k)) := by
  have goals : ((s.setSession k ⟨[], true⟩).called (.dispose k)).goals =
      s.goals ++ [.dispose k] := State.goals_called ..
  have disposed : ∀ l, .dispose l ∈ s.goals ++ [.dispose k] → l = k ∨ .dispose l ∈ s.goals := by
    intro l member
    rcases List.mem_append.mp member with early | late
    · exact .inr early
    · exact .inl (Goal.dispose.inj (List.mem_singleton.mp late))
  refine ⟨fun l member => ?_, fun l member => ?_, fun n l known home member => ?_, ?_⟩
  · rcases disposed l (goals ▸ member) with rfl | early
    · exact made
    · exact quiet.known l early
  · have entry : ((s.setSession k ⟨[], true⟩).called (.dispose k)).sessions.get l =
        if l = k then ⟨[], true⟩ else s.sessions.get l := Numbered.get_set ..
    rw [entry]
    split
    · rfl
    · next other => exact quiet.closed l ((disposed l (goals ▸ member)).resolve_left other)
  · rcases disposed l (goals ▸ member) with rfl | early
    · exact idle n known home
    · exact quiet.idle n l known home early
  · rw [goals]
    refine not_usedAgain_append quiet.unused undisposed ?_ ?_
    · intro g member l uses
      rw [List.mem_singleton.mp member, Goal.uses_iff] at uses
      simpa [Goal.module?, Goal.query?, eq_comm] using uses
    · intro before later l parts
      cases before with
      | nil => exact (List.cons.inj parts).2.symm
      | cons e before => simp at parts

/-- Closing a session uses none that has been disposed of. -/
theorem close_quiet (roster : Roster s) (quiet : Quiet s) (made : k < s.sessions.size) :
    Quiet ((close k).result s).2 := by
  cases closed : (s.sessions.get k).closed with
  | true =>
      rw [close_of_closed closed]
      exact quiet
  | false =>
      have undisposed : .dispose k ∉ s.goals := fun disposed => by
        rw [quiet.closed k disposed] at closed
        cases closed
      have within := roster.stopAll_within (k := k)
      have stopped := (closing_quiet quiet k).of_within within roster.homes_of_members undisposed
      rcases given : (stopAll (s.sessions.get k).threads).result (s.closing k) with
        ⟨failure | _, s₁⟩ <;> rw [given] at within stopped
      · rw [close_of_failure closed given]
        exact stopped
      · rw [close_of_stopped closed given]
        refine disposing_quiet stopped (within.sessionCount ▸ made)
          (fun member => undisposed (within.disposed_iff.mp member)) fun n known home => ?_
        have homeBefore : (s.threads.get n).session = k := (within.home n).symm.trans home
        have listed := roster.listed n (within.threadCount ▸ known)
          (by rw [homeBefore]; exact closed)
        rw [homeBefore] at listed
        exact current_of_stopAll given n listed

theorem close_extends (roster : Roster s) (k : Nat) : Extends s ((close k).result s).2 := by
  cases closed : (s.sessions.get k).closed with
  | true =>
      rw [close_of_closed closed]
      exact .refl s
  | false =>
      have stopped := roster.stopAll_within (k := k).grows
      rcases given : (stopAll (s.sessions.get k).threads).result (s.closing k) with
        ⟨failure | _, s₁⟩ <;> rw [given] at stopped
      · rw [close_of_failure closed given]
        exact ⟨stopped.sessionCount, stopped.threadCount, stopped.home, stopped.goals⟩
      · rw [close_of_stopped closed given]
        have goals : s.goals <+: ((s₁.setSession k ⟨[], true⟩).called (.dispose k)).goals := by
          rw [State.goals_called]
          exact stopped.goals.trans (List.prefix_append ..)
        exact ⟨stopped.sessionCount, stopped.threadCount, stopped.home, goals⟩

theorem createThread_quiet (quiet : Quiet s) (k : Nat) : Quiet ((createThread k).result s).2 := by
  rw [createThread_result]
  refine ⟨quiet.known, fun l disposed => ?_, fun n l known home disposed => ?_, quiet.unused⟩
  · have before := quiet.closed l disposed
    simp only [Numbered.get_set]
    split
    · next same => exact same ▸ before
    · exact before
  · simp only [Numbered.get_add, Numbered.size_add] at known home ⊢
    split
    · rfl
    · next other =>
        rw [if_neg other] at home
        exact quiet.idle n l (by omega) home disposed

theorem createThread_extends (s : State) (k : Nat) :
    Extends s ((createThread k).result s).2 := by
  rw [createThread_result]
  refine ⟨Nat.le_refl _, Nat.le_succ _, fun n known => ?_, List.prefix_rfl⟩
  simp only [Numbered.get_add, if_neg (Nat.ne_of_lt known)]

theorem createSession_quiet (quiet : Quiet s) : Quiet (createSession.result s).2 := by
  have added : Quiet { s with sessions := s.sessions.add ⟨[], false⟩ } := by
    refine ⟨fun l disposed => Nat.lt_succ_of_lt (quiet.known l disposed), fun l disposed => ?_,
      quiet.idle, quiet.unused⟩
    simp only [Numbered.get_add, if_neg (Nat.ne_of_lt (quiet.known l disposed))]
    exact quiet.closed l disposed
  rw [createSession_result]
  exact createThread_quiet added _

theorem createSession_extends (s : State) : Extends s (createSession.result s).2 := by
  rw [createSession_result]
  have added : Extends s { s with sessions := s.sessions.add ⟨[], false⟩ } :=
    ⟨Nat.le_succ _, Nat.le_refl _, fun _ _ => rfl, List.prefix_rfl⟩
  exact added.trans (createThread_extends _ _)

end WorkspacePolicy.Bridge
