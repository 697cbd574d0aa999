/-
# Proofs.Engine.Bridge.History — for whom a goal is called

A goal is called for a thread or for its whole session (`Actor`). A history says for each goal
for whom it was called. It is tidy where every goal keeps to what is its actor's: to the module of
its session, and to names under which the actor itself has started a query (`Tidy`).

A thread takes a name with its own number and its next number of a query, so that no name is
taken twice, also where the start fails (`started_tidy`). Each operation for an actor adds goals
of this actor and keeps the history tidy (`Tells`), whatever the other side replies.
-/
import WorkspacePolicy.Proofs.Engine.Bridge.Operations

namespace WorkspacePolicy.Bridge

set_option autoImplicit false

/-! ## Histories -/

/-- For whom goals are called: a session, or a thread of it. -/
inductive Actor where
  | session (k : Nat)
  | thread (k n : Nat)
  deriving DecidableEq

namespace Actor

/-- The session of an actor. -/
def home : Actor → Nat
  | session k | thread k _ => k

/-- The thread is one that the actor may speak for: a session speaks for all of its threads. -/
def SpeaksFor (actor : Actor) (n : Nat) : Prop :=
  match actor with
  | session _ => True
  | thread _ m => n = m

/-- The thread is in the session of the actor, and the actor speaks for it. -/
def Holds (actor : Actor) (s : State) (n : Nat) : Prop :=
  (s.threads.get n).session = actor.home ∧ actor.SpeaksFor n

end Actor

/-- The query that a goal starts, if it starts one. -/
def Goal.opened? : Goal → Option Alias
  | .start _ a _ => some a
  | _ => none

/-- Goals in order, each with its actor, if it has one. -/
abbrev History := List (Option Actor × Goal)

namespace History

/-- The goals of a history. -/
def goals (h : History) : List Goal := h.map Prod.snd

/-- The queries that were started, also those that could not be opened. -/
def opened (h : History) : List Alias := h.goals.filterMap Goal.opened?

/-- A query with this name was started for one of the threads that the actor speaks for. -/
def Opens (h : History) (actor : Actor) (name : String) : Prop :=
  ∃ n, actor.SpeaksFor n ∧ ∃ k a source,
    (some (.thread actor.home n), .start k a source) ∈ h ∧ a.text = name

/-- The goal has an actor, and it names nothing but the module of the session of this actor and
queries that were started for it before, or are started with this goal. -/
def Keeps (earlier : History) (actor? : Option Actor) (goal : Goal) : Prop :=
  ∃ actor, actor? = some actor ∧
    (∀ name, goal.NamesModule name → name = moduleName actor.home) ∧
    ∀ name, goal.NamesQuery name → Opens (earlier ++ [(actor?, goal)]) actor name

@[simp] theorem goals_append (h h' : History) : goals (h ++ h') = h.goals ++ h'.goals :=
  List.map_append

@[simp] theorem opened_append (h h' : History) : opened (h ++ h') = h.opened ++ h'.opened := by
  simp [opened]

@[simp] theorem goals_ofActor (actor? : Option Actor) (goals : List Goal) :
    History.goals (goals.map fun g => (actor?, g)) = goals := by
  simp [History.goals, Function.comp_def]

theorem mem_opened {h : History} {a : Alias} :
    a ∈ h.opened ↔ ∃ actor? k source, (actor?, .start k a source) ∈ h := by
  simp only [opened, goals, List.mem_filterMap, List.mem_map]
  constructor
  · rintro ⟨g, ⟨⟨actor?, g⟩, member, rfl⟩, opens⟩
    cases g with
    | start k b source =>
        obtain rfl : b = a := Option.some.inj opens
        exact ⟨actor?, k, source, member⟩
    | consult | next | stop | dispose => cases opens
  · rintro ⟨actor?, k, source, member⟩
    exact ⟨_, ⟨_, member, rfl⟩, rfl⟩

/-- A goal about a module keeps to it. -/
theorem keeps_of_module {h : History} {actor : Actor} {goal : Goal}
    (about : goal.module? = some actor.home) (noQuery : goal.query? = none) :
    h.Keeps (some actor) goal := by
  refine ⟨actor, rfl, fun name names => ?_, fun name names => ?_⟩
  · cases goal <;> simp_all [Goal.NamesModule, Goal.inputs, Goal.module?]
  · cases goal <;> simp_all [Goal.NamesQuery, Goal.inputs, Goal.query?]

/-- A goal about a query keeps to it. -/
theorem keeps_of_query {h : History} {actor : Actor} {goal : Goal} {a : Alias}
    (about : goal.module? = none ∨ goal.module? = some actor.home) (query : goal.query? = some a)
    (opens : Opens (h ++ [(some actor, goal)]) actor a.text) : h.Keeps (some actor) goal := by
  refine ⟨actor, rfl, fun name names => ?_, fun name names => ?_⟩
  · cases goal <;> simp_all [Goal.NamesModule, Goal.inputs, Goal.module?]
  · obtain rfl : name = a.text := by
      cases goal <;> simp_all [Goal.NamesQuery, Goal.inputs, Goal.query?]
    exact opens

end History

open History

/-! ## Tidy histories -/

variable {s s' s'' : State} {h : History} {n k : Nat}

/-- The thread of a name has taken it. -/
structure State.HasTaken (s : State) (a : Alias) : Prop where
  made : a.thread < s.threads.size
  home : (s.threads.get a.thread).session = a.session
  counted : a.query < (s.threads.get a.thread).started

theorem State.HasTaken.of_threads {a : Alias} (taken : s.HasTaken a)
    (same : s'.threads = s.threads) : s'.HasTaken a :=
  ⟨same ▸ taken.made, same ▸ taken.home, same ▸ taken.counted⟩

/-- The history is that of the goals in the trace, after the program has been loaded once. Queries
are started by the threads whose names they have, no name is used twice, a current query was
started, and every goal keeps to what is its actor's. -/
structure Tidy (h : History) (s : State) : Prop where
  trace : s.trace = (if s.loaded then [.load] else []) ++ h.goals.map .call
  ready : 0 < s.threads.size → s.loaded = true
  blank : s.loaded = false → h = []
  taken : ∀ actor? k a source, (actor?, .start k a source) ∈ h →
    actor? = some (.thread a.session a.thread) ∧ s.HasTaken a
  unique : h.opened.Nodup
  current : ∀ n a, (s.threads.get n).current = some a → a.thread = n ∧ a ∈ h.opened
  keeps : ∀ before actor? goal later, h = before ++ (actor?, goal) :: later →
    Keeps before actor? goal

theorem initial_tidy (replies : List Reply) : Tidy [] (.initial replies) where
  trace := rfl
  ready known := absurd known (Nat.lt_irrefl 0)
  blank _ := rfl
  taken _ _ _ _ member := absurd member List.not_mem_nil
  unique := List.nodup_nil
  current _ _ current := nomatch current
  keeps before _ _ _ parts := by cases before <;> cases parts

namespace Tidy

theorem goals_eq (tidy : Tidy h s) : s.goals = h.goals := by
  have called : (h.goals.map Event.call).filterMap Event.goal? = h.goals := by
    rw [List.filterMap_map]
    exact List.filterMap_some
  rw [State.goals, tidy.trace, List.filterMap_append, called]
  split <;> rfl

/-- A current query was started for its thread. -/
theorem opens_of_current {a : Alias} {actor : Actor} (tidy : Tidy h s)
    (current : (s.threads.get n).current = some a) (holds : actor.Holds s n) :
    Opens h actor a.text := by
  obtain ⟨rfl, member⟩ := tidy.current n a current
  obtain ⟨actor?, k, source, member⟩ := mem_opened.mp member
  obtain ⟨rfl, taken⟩ := tidy.taken actor? k a source member
  refine ⟨a.thread, holds.2, k, a, source, ?_, rfl⟩
  rw [← holds.1, taken.home]
  exact member

/-- Only the trace and the threads matter. -/
theorem of_eq (tidy : Tidy h s) (trace : s'.trace = s.trace) (loaded : s'.loaded = s.loaded)
    (threads : s'.threads = s.threads) : Tidy h s' where
  trace := by rw [trace, loaded, tidy.trace]
  ready := by rw [threads, loaded]; exact tidy.ready
  blank := by rw [loaded]; exact tidy.blank
  taken actor? k a source member := by
    obtain ⟨own, taken⟩ := tidy.taken actor? k a source member
    exact ⟨own, taken.of_threads threads⟩
  unique := tidy.unique
  current := by rw [threads]; exact tidy.current
  keeps := tidy.keeps

/-- A goal that keeps to what is its actor's is added; a query that it starts has a new name. -/
theorem called (tidy : Tidy h s) (loaded : s.loaded = true) {actor? : Option Actor} {goal : Goal}
    (keeps : h.Keeps actor? goal) (fresh : ∀ k a source, goal = .start k a source →
      a ∉ h.opened ∧ actor? = some (.thread a.session a.thread) ∧ s.HasTaken a) :
    Tidy (h ++ [(actor?, goal)]) (s.called goal) where
  trace := by
    show s.trace ++ [.call goal] = _
    rw [tidy.trace, goals_append, List.map_append, List.append_assoc]
    rfl
  ready := tidy.ready
  blank unloaded := absurd (loaded.symm.trans unloaded) Bool.noConfusion
  taken actor?' k a source member := by
    rcases List.mem_append.mp member with member | member
    · obtain ⟨own, taken⟩ := tidy.taken actor?' k a source member
      exact ⟨own, taken.of_threads rfl⟩
    · obtain ⟨rfl, same⟩ := Prod.mk.inj (List.mem_singleton.mp member)
      obtain ⟨-, own, taken⟩ := fresh k a source same.symm
      exact ⟨own, taken.of_threads rfl⟩
  unique := by
    rw [opened_append, List.nodup_append]
    refine ⟨tidy.unique, ?_, ?_⟩
    · cases goal <;> simp [opened, History.goals, Goal.opened?, List.filterMap_cons]
    · rintro a member b last rfl
      obtain ⟨_, k, source, started⟩ := mem_opened.mp last
      obtain ⟨-, same⟩ := Prod.mk.inj (List.mem_singleton.mp started)
      exact (fresh k a source same.symm).1 member
  current m a current := by
    obtain ⟨own, member⟩ := tidy.current m a current
    rw [opened_append]
    exact ⟨own, List.mem_append_left _ member⟩
  keeps before actor?' goal' later parts := by
    rcases List.eq_nil_or_concat later with rfl | ⟨later, last, rfl⟩
    · obtain ⟨rfl, same⟩ := List.append_inj' parts rfl
      obtain ⟨rfl, rfl⟩ := Prod.mk.inj (List.cons.inj same).1
      exact keeps
    · rw [List.concat_eq_append, ← List.cons_append, ← List.append_assoc] at parts
      exact tidy.keeps before actor?' goal' later (List.append_inj' parts rfl).1

/-- A thread may count on and hold a query that was started for it. -/
theorem setThread (tidy : Tidy h s) {entry : ThreadState}
    (home : entry.session = (s.threads.get n).session)
    (counts : (s.threads.get n).started ≤ entry.started)
    (own : ∀ a, entry.current = some a → a.thread = n ∧ a ∈ h.opened) :
    Tidy h (s.setThread n entry) := by
  have get : ∀ m, (s.setThread n entry).threads.get m =
      if m = n then entry else s.threads.get m := fun m => Numbered.get_set ..
  refine ⟨tidy.trace, tidy.ready, tidy.blank, fun actor? k a source member => ?_, tidy.unique,
    fun m a => ?_, tidy.keeps⟩
  · obtain ⟨attributed, made, sameHome, counted⟩ := tidy.taken actor? k a source member
    refine ⟨attributed, made, ?_, ?_⟩ <;> rw [get]
    · split
      · next same => rw [home, ← same, sameHome]
      · exact sameHome
    · split
      · next same => exact Nat.lt_of_lt_of_le (same ▸ counted) counts
      · exact counted
  · rw [get]
    split
    · next same => exact same ▸ own a
    · exact tidy.current m a

/-- The next name of a thread has not been used before. -/
theorem nextQuery_not_mem (tidy : Tidy h s) (n : Nat) : s.nextQuery n ∉ h.opened := by
  intro member
  obtain ⟨_, _, _, started⟩ := mem_opened.mp member
  exact Nat.lt_irrefl _ (tidy.taken _ _ _ _ started).2.counted

/-- A thread takes its next name and starts a query under it. -/
theorem started (tidy : Tidy h s) (made : n < s.threads.size)
    (home : (s.threads.get n).session = k) (source : String) :
    Tidy (h ++ [(some (.thread k n), .start k (s.nextQuery n) source)])
      ((s.attempted n).called (.start k (s.nextQuery n) source)) := by
  have attempted : Tidy h (s.attempted n) :=
    tidy.setThread rfl (Nat.le_succ _) (tidy.current n)
  refine attempted.called (tidy.ready (Nat.lt_of_le_of_lt (Nat.zero_le _) made)) ?_ ?_
  · refine keeps_of_query (.inr rfl) rfl ⟨n, rfl, k, s.nextQuery n, source, ?_, rfl⟩
    exact List.mem_append_right _ (List.mem_singleton_self _)
  · rintro _ _ _ ⟨⟩
    refine ⟨tidy.nextQuery_not_mem n, by rw [State.nextQuery, home], made, ?_, ?_⟩ <;>
      simp [State.attempted, State.setThread, State.nextQuery]

/-- A new thread of a session holds no query. -/
theorem createThread (tidy : Tidy h s) (loaded : s.loaded = true) (k : Nat) :
    Tidy h ((createThread k).result s).2 := by
  rw [createThread_result]
  refine ⟨tidy.trace, fun _ => loaded, tidy.blank, fun actor? k a source member => ?_, tidy.unique,
    fun m a current => ?_, tidy.keeps⟩
  · obtain ⟨attributed, made, home, counted⟩ := tidy.taken actor? k a source member
    have old := Nat.ne_of_lt made
    refine ⟨attributed, Nat.lt_succ_of_lt made, ?_, ?_⟩ <;>
      simpa only [Numbered.get_add, if_neg old]
  · simp only [Numbered.get_add] at current
    split at current
    · cases current
    · exact tidy.current m a current

end Tidy

/-- The program is loaded at most once, before the first goal. -/
theorem setup_tidy (s : State) : ∃ s₁, setup.result s = (.ok (), s₁) ∧ s₁.loaded = true ∧
    s₁.threads = s.threads ∧ s₁.sessions = s.sessions ∧ ∀ h, Tidy h s → Tidy h s₁ := by
  unfold setup
  rw [Action.result_bind, Action.result_get]
  cases loaded : s.loaded with
  | true => exact ⟨s, by simp [loaded], loaded, rfl, rfl, fun _ tidy => tidy⟩
  | false =>
      refine ⟨{ s with loaded := true, trace := s.trace ++ [.load] }, by simp [loaded], rfl, rfl, rfl,
        fun h tidy => ?_⟩
      obtain rfl := tidy.blank loaded
      have trace : s.trace = [] := by simpa [loaded, History.goals] using tidy.trace
      refine ⟨?_, fun _ => rfl, fun _ => rfl, fun _ _ _ _ member => absurd member List.not_mem_nil,
        tidy.unique, tidy.current, tidy.keeps⟩
      show s.trace ++ [.load] = _
      rw [trace]
      rfl

theorem createThread_others (made : n < s.threads.size) (k : Nat) :
    ((createThread k).result s).2.threads.get n = s.threads.get n := by
  rw [createThread_result]
  exact (Numbered.get_add ..).trans (if_neg (Nat.ne_of_lt made))

/-! ## Operations -/

/-- The history is tidy, and the actor speaks for the threads of a group, which have been made. -/
structure Engaged (actor : Actor) (group : List Nat) (h : History) (s : State) : Prop where
  tidy : Tidy h s
  made : ∀ n ∈ group, n < s.threads.size
  held : ∀ n ∈ group, actor.Holds s n

/-- From one state to another an actor adds goals of its own to the history, which stays tidy. -/
def Tells (actor : Actor) (group : List Nat) (s s' : State) : Prop :=
  ∀ h, Engaged actor group h s →
    ∃ goals : List Goal, Engaged actor group (h ++ goals.map fun g => (some actor, g)) s'

section

variable {actor : Actor} {group : List Nat}

theorem Engaged.loaded (engaged : Engaged actor group h s) (member : n ∈ group) :
    s.loaded = true :=
  engaged.tidy.ready (Nat.lt_of_le_of_lt (Nat.zero_le _) (engaged.made n member))

/-- The threads of a group stay where they are. -/
theorem Engaged.of_tidy {h' : History} (engaged : Engaged actor group h s) (tidy : Tidy h' s')
    (count : s'.threads.size = s.threads.size)
    (home : ∀ m, (s'.threads.get m).session = (s.threads.get m).session) :
    Engaged actor group h' s' :=
  ⟨tidy, fun n member => count ▸ engaged.made n member,
    fun n member => ⟨(home n).trans (engaged.held n member).1, (engaged.held n member).2⟩⟩

theorem Engaged.holding {current : Option Alias} (engaged : Engaged actor group h s)
    (own : ∀ a, current = some a → a.thread = n ∧ a ∈ h.opened) :
    Engaged actor group h (s.holding n current) := by
  refine engaged.of_tidy (engaged.tidy.setThread rfl (Nat.le_refl _) own) rfl fun m => ?_
  simp only [State.holding, State.setThread, Numbered.get_set]
  split
  · next same => rw [same]
  · rfl

namespace Tells

theorem refl (s : State) : Tells actor group s s := fun h engaged => ⟨[], by simpa using engaged⟩

theorem trans (first : Tells actor group s s') (second : Tells actor group s' s'') :
    Tells actor group s s'' := by
  intro h engaged
  obtain ⟨goals, middle⟩ := first h engaged
  obtain ⟨more, last⟩ := second _ middle
  exact ⟨goals ++ more, by simpa using last⟩

/-- Sessions and warnings do not matter. -/
theorem of_eq (trace : s'.trace = s.trace) (loaded : s'.loaded = s.loaded)
    (threads : s'.threads = s.threads) : Tells actor group s s' := by
  intro h engaged
  have tidy := engaged.tidy.of_eq trace loaded threads
  exact ⟨[], by simpa using engaged.of_tidy tidy (by rw [threads]) fun _ => by rw [threads]⟩

theorem called {goal : Goal} (member : n ∈ group) (startless : goal.opened? = none)
    (keeps : ∀ h, Engaged actor group h s → h.Keeps (some actor) goal) :
    Tells actor group s (s.called goal) := by
  intro h engaged
  have tidy := engaged.tidy.called (engaged.loaded member) (keeps h engaged) (by
    rintro k a source rfl
    cases startless)
  exact ⟨[goal], engaged.of_tidy tidy rfl fun _ => rfl⟩

/-- A goal about the current query of a thread that the actor speaks for. -/
theorem calledAbout {goal : Goal} {a : Alias} (member : n ∈ group)
    (current : (s.threads.get n).current = some a) (startless : goal.opened? = none)
    (noModule : goal.module? = none) (query : goal.query? = some a) :
    Tells actor group s (s.called goal) := by
  refine called member startless fun h engaged => keeps_of_query (.inl noModule) query ?_
  obtain ⟨m, speaks, k, b, source, started, name⟩ :=
    engaged.tidy.opens_of_current current (engaged.held n member)
  exact ⟨m, speaks, k, b, source, List.mem_append_left _ started, name⟩

theorem holding_none (n : Nat) : Tells actor group s (s.holding n none) := by
  intro h engaged
  have holding : Engaged actor group h (s.holding n none) :=
    engaged.holding fun _ same => nomatch same
  exact ⟨[], by simpa using holding⟩

theorem stopCurrent (member : n ∈ group) (s : State) :
    Tells actor group s ((Bridge.stopCurrent n).result s).2 := by
  cases current : (s.threads.get n).current with
  | none =>
      rw [stopCurrent_of_none current]
      exact refl s
  | some a =>
      rw [stopCurrent_of_some current]
      have stop : Tells actor group s (s.called (.stop a)) :=
        calledAbout member current rfl rfl rfl
      split
      · exact stop.trans (holding_none n)
      · exact stop

theorem stopAll (stopped : List Nat) (members : ∀ n ∈ stopped, n ∈ group) (s : State) :
    Tells actor group s ((Bridge.stopAll stopped).result s).2 := by
  induction stopped generalizing s with
  | nil => exact refl s
  | cons n rest ih =>
      obtain ⟨member, others⟩ := List.forall_mem_cons.mp members
      exact Action.related_bind (R := Tells actor group) trans (stopCurrent member s)
        fun _ s' _ => ih others s'

theorem consult (member : n ∈ group) (source : String) (s : State) :
    Tells actor group s ((Bridge.consult n source).result s).2 := by
  obtain ⟨warnings, state⟩ := consult_state (s := s) (n := n) source
  have goal : Tells actor group s (s.called (.consult (s.threads.get n).session source)) :=
    called member rfl fun h engaged =>
      keeps_of_module (congrArg some (engaged.held n member).1) rfl
  rw [state]
  exact goal.trans (.of_eq rfl rfl rfl)

theorem answer (member : n ∈ group) (s : State) :
    Tells actor group s ((Bridge.answer n).result s).2 := by
  cases current : (s.threads.get n).current with
  | none =>
      rw [answer_of_none current]
      exact refl s
  | some a =>
      have next : Tells actor group s (s.called (.next a)) :=
        calledAbout member current rfl rfl rfl
      rcases answer_state current with state | state | state <;> rw [state]
      · exact next
      · exact next.trans (holding_none n)
      · exact next.trans (stopCurrent member _)

end Tells

/-- A thread starts a query under its next name. -/
theorem Engaged.started (engaged : Engaged (.thread k n) [n] h s) (source : String) :
    Engaged (.thread k n) [n] (h ++ [(some (.thread k n), .start k (s.nextQuery n) source)])
      ((s.attempted n).called (.start (s.threads.get n).session (s.nextQuery n) source)) := by
  have own := List.mem_singleton_self n
  obtain ⟨home, -⟩ : (s.threads.get n).session = k ∧ _ := engaged.held n own
  refine engaged.of_tidy ?_ rfl fun m => ?_
  · rw [home]
    exact engaged.tidy.started (engaged.made n own) home source
  · simp only [State.attempted, State.threads_called, State.setThread, Numbered.get_set]
    split
    · next same => rw [same]
    · rfl

/-- Only a thread starts queries, and under names of its own. -/
theorem query_tells (k n : Nat) (source : String) (s : State) :
    Tells (.thread k n) [n] s ((query n source).result s).2 := by
  have stop : Tells (.thread k n) [n] s ((stopCurrent n).result s).2 :=
    .stopCurrent (List.mem_singleton_self n) s
  rcases stopped : (stopCurrent n).result s with ⟨failure | _, s₁⟩ <;> rw [stopped] at stop
  · rwa [query_state_of_failure source stopped]
  · refine stop.trans fun h engaged => ⟨[.start k (s₁.nextQuery n) source], ?_⟩
    have started := engaged.started source
    rcases query_state source stopped with state | state <;> rw [state]
    · exact started
    · refine started.holding ?_
      rintro _ ⟨⟩
      exact ⟨rfl, mem_opened.mpr ⟨_, k, source, List.mem_append_right _ (List.mem_singleton_self _)⟩⟩

end

/-- Closing a session leaves the threads of all others as they are. -/
theorem close_others (roster : Roster s) (foreign : (s.threads.get n).session ≠ k) :
    ((close k).result s).2.threads.get n = s.threads.get n := by
  cases closed : (s.sessions.get k).closed with
  | true => rw [close_of_closed closed]
  | false =>
      have outside : n ∉ (s.sessions.get k).threads := fun member =>
        foreign (roster.homes_of_members n member)
      have stopped := (roster.stopAll_within (k := k)).threads n outside
      rcases given : (stopAll (s.sessions.get k).threads).result (s.closing k) with
        ⟨failure | _, s₁⟩ <;> rw [given] at stopped
      · rw [close_of_failure closed given]
        exact stopped
      · rw [close_of_stopped closed given]
        exact stopped

/-- A session speaks for its threads when it is closed. -/
theorem close_tells (k : Nat) {group : List Nat}
    (members : ∀ n ∈ (s.sessions.get k).threads, n ∈ group) (main : n ∈ group) :
    Tells (.session k) group s ((close k).result s).2 := by
  cases closed : (s.sessions.get k).closed with
  | true =>
      rw [close_of_closed closed]
      exact .refl s
  | false =>
      have closing : Tells (.session k) group s (s.closing k) := .of_eq rfl rfl rfl
      have stopped := closing.trans (.stopAll _ members (s.closing k))
      rcases given : (stopAll (s.sessions.get k).threads).result (s.closing k) with
        ⟨failure | _, s₁⟩ <;> rw [given] at stopped
      · rwa [close_of_failure closed given]
      · rw [close_of_stopped closed given]
        have cleared : Tells (.session k) group s₁ (s₁.setSession k ⟨[], true⟩) := .of_eq rfl rfl rfl
        exact (stopped.trans cleared).trans (.called main rfl fun _ _ => keeps_of_module rfl rfl)

end WorkspacePolicy.Bridge
