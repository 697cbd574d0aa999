/-
# Proofs.Engine.Bridge.Ledger — the life of a query on the other side

A query that was opened is asked for answers, and it ends once: its answers end, or one of them
was thrown and the query is stopped at once, or it is stopped. After that no goal names it
(`InUse`, `Ended`).

What threads do is put together from a few steps on their entries and the log (`Step`). The
ledger says of every query that was opened whether it is in use, which is so exactly when its
thread holds it, or has ended. Every step keeps the ledger (`Ledger.step`), and so does every
chain of steps.
-/
import Mathlib.Logic.Relation
import WorkspacePolicy.Proofs.Engine.Bridge.Exchange

namespace WorkspacePolicy.Bridge

set_option autoImplicit false

/-! ## The life of a query -/

namespace Exchange

/-- The query was opened. -/
def Opens (a : Alias) (e : Exchange) : Prop :=
  (∃ session source, e.goal = .start session a source) ∧ Says e.goal e.reply .accepted

/-- The query gave an answer. -/
def Answers (a : Alias) (e : Exchange) : Prop :=
  e.goal = .next a ∧ ∃ links, Says e.goal e.reply (.answer links)

/-- The goal names the query. -/
def Names (a : Alias) (e : Exchange) : Prop := e.goal.NamesQuery a.text

end Exchange

/-- How a query ends: its answers end, or one of them was thrown and the query is stopped at
once, or it is stopped. -/
inductive IsEnding (a : Alias) : List Exchange → Prop
  | done {reply : Reply} : Says (.next a) reply .done → IsEnding a [⟨.next a, reply⟩]
  | thrown {reply reply' : Reply} {term : Term} : Says (.next a) reply (.thrown term) →
      IsEnding a [⟨.next a, reply⟩, ⟨.stop a, reply'⟩]
  | stopped {reply : Reply} : IsEnding a [⟨.stop a, reply⟩]

/-- Since it was opened, a query has given nothing but answers. -/
def InUse (a : Alias) (later : List Exchange) : Prop := ∀ e ∈ later, e.Names a → e.Answers a

/-- Since it was opened, a query has given answers and ended; after that it is not named. -/
def Ended (a : Alias) (later : List Exchange) : Prop :=
  ∃ uses ending rest, later = uses ++ ending ++ rest ∧ InUse a uses ∧ IsEnding a ending ∧
    ∀ e ∈ rest, ¬ e.Names a

section

variable {a b : Alias} {later more ending : List Exchange}

theorem Exchange.names_iff (e : Exchange) : e.Names a ↔ e.goal.query? = some a :=
  e.goal.namesQuery_iff a

theorem IsEnding.query? (ends : IsEnding a ending) : ∀ e ∈ ending, e.goal.query? = some a := by
  intro e member
  cases ends with
  | done _ =>
      obtain rfl := List.mem_singleton.mp member
      rfl
  | thrown _ =>
      rcases List.mem_cons.mp member with rfl | member
      · rfl
      · obtain rfl := List.mem_singleton.mp member
        rfl
  | stopped =>
      obtain rfl := List.mem_singleton.mp member
      rfl

theorem IsEnding.not_opens (ends : IsEnding a ending) : ∀ e ∈ ending, ¬ e.Opens b := by
  rintro e member ⟨⟨session, source, goal⟩, -⟩
  cases ends with
  | done _ =>
      obtain rfl := List.mem_singleton.mp member
      cases goal
  | thrown _ =>
      rcases List.mem_cons.mp member with rfl | member
      · cases goal
      · obtain rfl := List.mem_singleton.mp member
        cases goal
  | stopped =>
      obtain rfl := List.mem_singleton.mp member
      cases goal

/-- An ending holds more than answers. -/
theorem IsEnding.not_inUse (ends : IsEnding a ending) : ¬ InUse a ending := by
  intro uses
  have named : ∀ e ∈ ending, e.Names a := fun e member => e.names_iff.mpr (ends.query? e member)
  cases ends with
  | done said =>
      obtain ⟨-, links, answers⟩ := uses _ List.mem_cons_self (named _ List.mem_cons_self)
      cases said.unique answers
  | thrown said =>
      obtain ⟨-, links, answers⟩ := uses _ List.mem_cons_self (named _ List.mem_cons_self)
      cases said.unique answers
  | stopped =>
      obtain ⟨goal, -⟩ := uses _ List.mem_cons_self (named _ List.mem_cons_self)
      cases goal

theorem InUse.not_ended (uses : InUse a later) : ¬ Ended a later := by
  rintro ⟨before, ending, rest, rfl, -, ends, -⟩
  refine ends.not_inUse fun e member => uses e ?_
  exact List.mem_append_left _ (List.mem_append_right _ member)

theorem InUse.append (uses : InUse a later) (goesOn : InUse a more) : InUse a (later ++ more) := by
  intro e member
  rcases List.mem_append.mp member with member | member
  · exact uses e member
  · exact goesOn e member

theorem InUse.of_not_named (others : ∀ e ∈ more, ¬ e.Names a) : InUse a more :=
  fun e member named => absurd named (others e member)

theorem InUse.ended (uses : InUse a later) (ends : IsEnding a ending) :
    Ended a (later ++ ending) :=
  ⟨later, ending, [], by simp, uses, ends, by simp⟩

theorem Ended.append (ended : Ended a later) (others : ∀ e ∈ more, ¬ e.Names a) :
    Ended a (later ++ more) := by
  obtain ⟨uses, ending, rest, rfl, inUse, ends, silent⟩ := ended
  refine ⟨uses, ending, rest ++ more, by simp, inUse, ends, fun e member => ?_⟩
  rcases List.mem_append.mp member with member | member
  · exact silent e member
  · exact others e member

end

/-! ## Steps -/

/-- The entries of the threads and the log. -/
structure Book where
  threads : Numbered ThreadState
  log : List Exchange

namespace Book

/-- The book with another entry for a thread and more exchanges. -/
def enter (b : Book) (n : Nat) (thread : ThreadState) (more : List Exchange) : Book :=
  ⟨b.threads.set n thread, b.log ++ more⟩

/-- The name of the next query of a thread. -/
def nextQuery (b : Book) (n : Nat) : Alias :=
  ⟨(b.threads.get n).session, n, (b.threads.get n).started⟩

end Book

/-- What can happen to the entries of the threads, and what is logged of it. -/
inductive Step : Book → Book → Prop
  | newThread {b : Book} (session : Nat) : Step b ⟨b.threads.add ⟨session, 0, none⟩, b.log⟩
  /-- A goal about no query. -/
  | aside {b : Book} {e : Exchange} : e.goal.query? = none → Step b ⟨b.threads, b.log ++ [e]⟩
  /-- A thread without a current query fails to start one. -/
  | refused {b : Book} {n : Nat} {e : Exchange} {source : String} {term : Term} :
      n < b.threads.size → (b.threads.get n).current = none →
      e.goal = .start (b.threads.get n).session (b.nextQuery n) source →
      Says e.goal e.reply (.thrown term) →
      Step b (b.enter n
        { b.threads.get n with started := (b.threads.get n).started + 1 } [e])
  /-- A thread without a current query starts one. -/
  | opened {b : Book} {n : Nat} {e : Exchange} {source : String} :
      n < b.threads.size → (b.threads.get n).current = none →
      e.goal = .start (b.threads.get n).session (b.nextQuery n) source →
      Says e.goal e.reply .accepted →
      Step b (b.enter n ⟨(b.threads.get n).session, (b.threads.get n).started + 1,
        some (b.nextQuery n)⟩ [e])
  /-- The current query of a thread gives an answer. -/
  | answered {b : Book} {n : Nat} {a : Alias} {e : Exchange} :
      (b.threads.get n).current = some a → e.Answers a → Step b (b.enter n (b.threads.get n) [e])
  /-- The current query of a thread ends. -/
  | ended {b : Book} {n : Nat} {a : Alias} {ending : List Exchange} :
      (b.threads.get n).current = some a → IsEnding a ending →
      Step b (b.enter n { b.threads.get n with current := none } ending)

/-! ## The ledger -/

/-- The query has been opened, and `later` is what came after it. -/
def OpenedBefore (log : List Exchange) (a : Alias) (later : List Exchange) : Prop :=
  ∃ before opening, log = before ++ opening :: later ∧ opening.Opens a

/-- The query has been opened and has not ended. -/
def Unended (log : List Exchange) (a : Alias) : Prop :=
  ∃ later, OpenedBefore log a later ∧ ¬ Ended a later

/-- No two queries of a thread have been opened without having ended. -/
def Single (log : List Exchange) : Prop :=
  ∀ a b, a.thread = b.thread → Unended log a → Unended log b → a = b

/-- Every query that a goal has named belongs to a thread, under a number that this thread has
used up; every query that was opened is in use or has ended, and it is in use exactly when its
thread holds it. -/
structure Ledger (b : Book) : Prop where
  unused : ∀ n, b.threads.size ≤ n → (b.threads.get n).current = none
  named : ∀ e ∈ b.log, ∀ a, e.goal.query? = some a →
    a.thread < b.threads.size ∧ a.session = (b.threads.get a.thread).session ∧
      a.query < (b.threads.get a.thread).started
  held : ∀ n a, (b.threads.get n).current = some a → a.thread = n ∧
    ∃ later, OpenedBefore b.log a later
  life : ∀ a later, OpenedBefore b.log a later →
    (b.threads.get a.thread).current = some a ∧ InUse a later ∨
      (b.threads.get a.thread).current ≠ some a ∧ Ended a later

theorem OpenedBefore.append {log more later : List Exchange} {a : Alias}
    (opened : OpenedBefore log a later) : OpenedBefore (log ++ more) a (later ++ more) := by
  obtain ⟨before, opening, rfl, opens⟩ := opened
  exact ⟨before, opening, by simp, opens⟩

theorem OpenedBefore.of_singleton {e : Exchange} {a : Alias} {later : List Exchange}
    (opened : OpenedBefore [e] a later) : e.Opens a ∧ later = [] := by
  obtain ⟨before, opening, parts, opens⟩ := opened
  obtain ⟨rfl, rfl, rfl⟩ : before = [] ∧ e = opening ∧ later = [] := by
    cases before <;> simp_all
  exact ⟨opens, rfl⟩

/-- A query was opened in the first part of a log or in the second. -/
theorem openedBefore_append {log more later : List Exchange} {a : Alias}
    (opened : OpenedBefore (log ++ more) a later) :
    (∃ first, OpenedBefore log a first ∧ later = first ++ more) ∨ OpenedBefore more a later := by
  obtain ⟨before, opening, parts, opens⟩ := opened
  rcases List.append_eq_append_iff.mp parts with ⟨middle, rfl, rfl⟩ | ⟨middle, rfl, rest⟩
  · exact .inr ⟨middle, opening, rfl, opens⟩
  · cases middle with
    | nil => exact .inr ⟨[], opening, rest.symm, opens⟩
    | cons e middle =>
        obtain ⟨rfl, rfl⟩ := List.cons.inj rest
        exact .inl ⟨middle, ⟨before, opening, by simp, opens⟩, rfl⟩

theorem OpenedBefore.query? {log later : List Exchange} {a : Alias}
    (opened : OpenedBefore log a later) : ∃ e ∈ log, e.goal.query? = some a := by
  obtain ⟨before, opening, rfl, ⟨session, source, goal⟩, -⟩ := opened
  exact ⟨opening, by simp, by rw [goal]; rfl⟩

namespace Ledger

variable {b b' : Book} {n : Nat}

theorem newThread (ledger : Ledger b) (session : Nat) :
    Ledger ⟨b.threads.add ⟨session, 0, none⟩, b.log⟩ := by
  have entry : ∀ m, m < b.threads.size →
      (b.threads.add ⟨session, 0, none⟩).get m = b.threads.get m := by
    intro m old
    rw [Numbered.get_add, if_neg (by omega)]
  have current : ∀ m, ((b.threads.add ⟨session, 0, none⟩).get m).current =
      (b.threads.get m).current := by
    intro m
    rw [Numbered.get_add]
    split
    · next new => rw [ledger.unused m (by omega)]
    · rfl
  refine ⟨fun m new => ?_, fun e member a names => ?_, fun m a holds => ?_,
    fun a later opened => ?_⟩
  · rw [Numbered.size_add] at new
    rw [current]
    exact ledger.unused m (by omega)
  · obtain ⟨old, session, query⟩ := ledger.named e member a names
    simp only [entry a.thread old, Numbered.size_add]
    exact ⟨by omega, session, query⟩
  · rw [current] at holds
    exact ledger.held m a holds
  · rw [current]
    exact ledger.life a later opened

/-- A query goes on as it was where it is not named. -/
theorem life_of_not_named (ledger : Ledger b) {a : Alias} {more later : List Exchange}
    (unnamed : ∀ e ∈ more, ¬ e.Names a) (opened : OpenedBefore (b.log ++ more) a later) :
    (b.threads.get a.thread).current = some a ∧ InUse a later ∨
      (b.threads.get a.thread).current ≠ some a ∧ Ended a later := by
  rcases openedBefore_append opened with ⟨first, earlier, rfl⟩ | late
  · rcases ledger.life a first earlier with ⟨holds, uses⟩ | ⟨without, ended⟩
    · exact .inl ⟨holds, uses.append (.of_not_named unnamed)⟩
    · exact .inr ⟨without, ended.append unnamed⟩
  · obtain ⟨e, member, names⟩ := late.query?
    exact absurd (e.names_iff.mpr names) (unnamed e member)

theorem aside (ledger : Ledger b) {e : Exchange} (silent : e.goal.query? = none) :
    Ledger ⟨b.threads, b.log ++ [e]⟩ := by
  have unnamed : ∀ a, ∀ e' ∈ [e], ¬ e'.Names a := by
    intro a e' member
    rw [Exchange.names_iff, List.mem_singleton.mp member, silent]
    simp
  refine ⟨ledger.unused, fun e' member a names => ?_, fun m a holds => ?_,
    fun a later opened => ledger.life_of_not_named (unnamed a) opened⟩
  · rcases List.mem_append.mp member with member | member
    · exact ledger.named e' member a names
    · exact absurd (e'.names_iff.mpr names) (unnamed a e' member)
  · obtain ⟨own, later, opened⟩ := ledger.held m a holds
    exact ⟨own, later ++ [e], opened.append⟩

/-- A step of one thread keeps the ledger if it is right for the queries of this thread. -/
theorem enter (ledger : Ledger b) {thread : ThreadState} {more : List Exchange}
    (known : n < b.threads.size) (home : thread.session = (b.threads.get n).session)
    (grows : (b.threads.get n).started ≤ thread.started)
    (named : ∀ e ∈ more, ∀ a, e.goal.query? = some a →
      a.thread = n ∧ a.session = thread.session ∧ a.query < thread.started)
    (held : ∀ a, thread.current = some a →
      a.thread = n ∧ ∃ later, OpenedBefore (b.log ++ more) a later)
    (life : ∀ a later, a.thread = n → OpenedBefore (b.log ++ more) a later →
      thread.current = some a ∧ InUse a later ∨ thread.current ≠ some a ∧ Ended a later) :
    Ledger (b.enter n thread more) := by
  have entry : ∀ m, (b.enter n thread more).threads.get m =
      if m = n then thread else b.threads.get m := fun m => Numbered.get_set ..
  refine ⟨fun m new => ?_, fun e member a names => ?_, fun m a holds => ?_,
    fun a later opened => ?_⟩
  · have other : m ≠ n := by
      have := b.threads.size_set n thread
      simp only [Book.enter] at new
      omega
    rw [entry, if_neg other]
    exact ledger.unused m new
  · rw [entry]
    rcases List.mem_append.mp member with member | member
    · obtain ⟨old, session, query⟩ := ledger.named e member a names
      refine ⟨old, ?_⟩
      split
      · next same =>
          rw [same] at session query
          exact ⟨session.trans home.symm, by omega⟩
      · exact ⟨session, query⟩
    · obtain ⟨rfl, session, query⟩ := named e member a names
      exact ⟨known, by simpa using session, by simpa using query⟩
  · rw [entry] at holds
    split at holds
    · next same =>
        rw [same]
        exact held a holds
    · obtain ⟨own, later, opened⟩ := ledger.held m a holds
      exact ⟨own, later ++ more, opened.append⟩
  · rw [entry]
    split
    · next same => exact life a later same opened
    · next other =>
        have unnamed : ∀ e ∈ more, ¬ e.Names a := by
          intro e member names
          exact other (named e member a (e.names_iff.mp names)).1
        exact ledger.life_of_not_named unnamed opened

/-- A thread that holds a query is one that there is. -/
theorem known_of_held (ledger : Ledger b) {a : Alias}
    (holds : (b.threads.get n).current = some a) : n < b.threads.size := by
  refine Nat.lt_of_not_le fun unknown => ?_
  rw [ledger.unused n unknown] at holds
  cases holds

/-- The query that a thread holds is one that goals may name. -/
theorem named_of_held (ledger : Ledger b) {a : Alias}
    (holds : (b.threads.get n).current = some a) : a.thread = n ∧
      a.session = (b.threads.get n).session ∧ a.query < (b.threads.get n).started := by
  obtain ⟨rfl, later, opened⟩ := ledger.held n a holds
  obtain ⟨e, member, names⟩ := opened.query?
  exact ⟨rfl, (ledger.named e member a names).2⟩

/-- A query that was opened and that its thread does not hold has ended. -/
theorem ended_of_other (ledger : Ledger b) {a : Alias} {later : List Exchange}
    (opened : OpenedBefore b.log a later) (other : (b.threads.get a.thread).current ≠ some a) :
    Ended a later := by
  rcases ledger.life a later opened with ⟨holds, -⟩ | ⟨-, ended⟩
  · exact absurd holds other
  · exact ended

/-- The next name of a thread is one that no goal has named. -/
theorem nextQuery_unnamed (ledger : Ledger b) {e : Exchange} (member : e ∈ b.log) :
    e.goal.query? ≠ some (b.nextQuery n) := by
  intro names
  obtain ⟨-, -, query⟩ := ledger.named e member _ names
  exact Nat.lt_irrefl _ query

/-- A thread without a current query takes its next name: the queries that it opened before
have ended, and stay so. -/
theorem ended_at_start (ledger : Ledger b) {e : Exchange} {a : Alias} {later : List Exchange}
    (idle : (b.threads.get n).current = none) (names : e.goal.query? = some (b.nextQuery n))
    (own : a.thread = n) (opened : OpenedBefore b.log a later) :
    a ≠ b.nextQuery n ∧ Ended a (later ++ [e]) := by
  have other : a ≠ b.nextQuery n := by
    rintro rfl
    obtain ⟨e', member, names'⟩ := opened.query?
    exact ledger.nextQuery_unnamed member names'
  have ended : Ended a later := ledger.ended_of_other opened (by simp [own, idle])
  refine ⟨other, ended.append fun e' member named => other ?_⟩
  rw [List.mem_singleton.mp member, Exchange.names_iff, names] at named
  exact (Option.some.inj named).symm

/-- The query that a thread holds is gone on with, and its other queries stay as they were. -/
theorem of_held (ledger : Ledger b) {a : Alias} {thread : ThreadState} {more : List Exchange}
    (holds : (b.threads.get n).current = some a)
    (home : thread.session = (b.threads.get n).session)
    (started : thread.started = (b.threads.get n).started)
    (current : thread.current = some a ∨ thread.current = none)
    (names : ∀ e ∈ more, e.goal.query? = some a) (opens : ∀ e ∈ more, ∀ c, ¬ e.Opens c)
    (life : ∀ later, InUse a later → thread.current = some a ∧ InUse a (later ++ more) ∨
      thread.current ≠ some a ∧ Ended a (later ++ more)) :
    Ledger (b.enter n thread more) := by
  obtain ⟨own, session, query⟩ := ledger.named_of_held holds
  refine ledger.enter (ledger.known_of_held holds) home (by omega) ?_ ?_ ?_
  · intro e member c named
    obtain rfl : a = c := Option.some.inj ((names e member).symm.trans named)
    exact ⟨own, by rw [home, session], by omega⟩
  · intro c holdsNow
    obtain rfl : c = a := by
      rcases current with current | current
      · exact Option.some.inj (holdsNow.symm.trans current)
      · cases holdsNow.symm.trans current
    obtain ⟨-, later, opened⟩ := ledger.held n c holds
    exact ⟨own, later ++ more, opened.append⟩
  · intro c later sameThread opened
    rcases openedBefore_append opened with ⟨first, earlier, rfl⟩ | late
    · rcases ledger.life c first earlier with ⟨holds', uses⟩ | ⟨without, ended⟩
      · obtain rfl : a = c := by
          rw [sameThread, holds] at holds'
          exact Option.some.inj holds'
        exact life first uses
      · have other : c ≠ a := by
          rintro rfl
          exact without (sameThread ▸ holds)
        refine .inr ⟨?_, ended.append fun e member named => other ?_⟩
        · rcases current with current | current <;> simp [current, other.symm]
        · rw [Exchange.names_iff, names e member] at named
          exact (Option.some.inj named).symm
    · obtain ⟨before, opening, rfl, opensNow⟩ := late
      exact absurd opensNow (opens opening (by simp) c)

/-- **Every step keeps the ledger.** -/
theorem step (ledger : Ledger b) (taken : Step b b') : Ledger b' := by
  cases taken with
  | newThread session => exact ledger.newThread session
  | aside silent => exact ledger.aside silent
  | @refused n e source term known idle goal said =>
      have names : e.goal.query? = some (b.nextQuery n) := by rw [goal]; rfl
      refine ledger.enter known rfl (by simp) ?_ (by simp [idle]) ?_
      · intro e' member a named
        obtain rfl := List.mem_singleton.mp member
        obtain rfl : b.nextQuery n = a := Option.some.inj (names.symm.trans named)
        exact ⟨rfl, rfl, Nat.lt_succ_self _⟩
      · intro a later own opened
        refine .inr ⟨by simp [idle], ?_⟩
        rcases openedBefore_append opened with ⟨first, earlier, rfl⟩ | late
        · exact (ledger.ended_at_start idle names own earlier).2
        · obtain ⟨⟨-, accepted⟩, -⟩ := late.of_singleton
          cases said.unique accepted
  | @opened n e source known idle goal said =>
      have names : e.goal.query? = some (b.nextQuery n) := by rw [goal]; rfl
      have opens : e.Opens (b.nextQuery n) := ⟨⟨_, source, goal⟩, said⟩
      refine ledger.enter known rfl (by simp) ?_ ?_ ?_
      · intro e' member a named
        obtain rfl := List.mem_singleton.mp member
        obtain rfl : b.nextQuery n = a := Option.some.inj (names.symm.trans named)
        exact ⟨rfl, rfl, Nat.lt_succ_self _⟩
      · intro a holds
        obtain rfl : b.nextQuery n = a := Option.some.inj holds
        exact ⟨rfl, [], b.log, e, rfl, opens⟩
      · intro a later own opened
        rcases openedBefore_append opened with ⟨first, earlier, rfl⟩ | late
        · obtain ⟨other, ended⟩ := ledger.ended_at_start idle names own earlier
          exact .inr ⟨fun same => other (Option.some.inj same).symm, ended⟩
        · obtain ⟨⟨⟨session, source', start⟩, -⟩, rfl⟩ := late.of_singleton
          rw [start] at names
          obtain rfl : a = b.nextQuery n := Option.some.inj names
          exact .inl ⟨rfl, by simp [InUse]⟩
  | @answered n a e holds answers =>
      have goal := answers.1
      refine ledger.of_held holds rfl rfl (.inl holds) ?_ ?_ fun later uses => .inl ⟨holds, ?_⟩
      · intro e' member
        rw [List.mem_singleton.mp member, goal]
        rfl
      · rintro e' member c ⟨⟨session, source, start⟩, -⟩
        rw [List.mem_singleton.mp member, goal] at start
        cases start
      · refine uses.append fun e' member _ => ?_
        rwa [List.mem_singleton.mp member]
  | @ended n a ending holds ends =>
      exact ledger.of_held holds rfl rfl (.inr rfl) ends.query?
        (fun e member c => ends.not_opens e member) fun later uses =>
          .inr ⟨by simp, uses.ended ends⟩

/-- A chain of steps keeps the ledger. -/
theorem steps (ledger : Ledger b) (taken : Relation.ReflTransGen Step b b') : Ledger b' := by
  induction taken with
  | refl => exact ledger
  | tail _ last ih => exact ih.step last

/-- A thread holds the query that it has opened and that has not ended. -/
theorem held_iff (ledger : Ledger b) {a : Alias} :
    (b.threads.get n).current = some a ↔ a.thread = n ∧ Unended b.log a := by
  constructor
  · intro holds
    obtain ⟨own, later, opened⟩ := ledger.held n a holds
    refine ⟨own, later, opened, ?_⟩
    rcases ledger.life a later opened with ⟨-, uses⟩ | ⟨without, -⟩
    · exact uses.not_ended
    · exact absurd (own ▸ holds) without
  · rintro ⟨rfl, later, opened, unended⟩
    rcases ledger.life a later opened with ⟨holds, -⟩ | ⟨-, ended⟩
    · exact holds
    · exact absurd ended unended

theorem single (ledger : Ledger b) : Single b.log := by
  intro a c sameThread unended unended'
  have first := ledger.held_iff.mpr ⟨rfl, unended⟩
  have second := ledger.held_iff.mpr ⟨rfl, unended'⟩
  rw [sameThread, second] at first
  exact (Option.some.inj first).symm

/-- A goal about a query that a thread holds leaves the other queries ended. -/
theorem single_of_held (ledger : Ledger b) {a : Alias} {e : Exchange}
    (holds : (b.threads.get n).current = some a) (names : e.goal.query? = some a)
    (opens : ∀ c, ¬ e.Opens c) : Single (b.log ++ [e]) := by
  have before : ∀ c, Unended (b.log ++ [e]) c → Unended b.log c := by
    rintro c ⟨later, opened, unended⟩
    rcases openedBefore_append opened with ⟨first, earlier, rfl⟩ | late
    · refine ⟨first, earlier, fun ended => unended (ended.append fun e' member named => ?_)⟩
      rw [List.mem_singleton.mp member, Exchange.names_iff, names] at named
      obtain rfl := Option.some.inj named
      rcases ledger.life a first earlier with ⟨-, uses⟩ | ⟨without, -⟩
      · exact uses.not_ended ended
      · exact without ((ledger.named_of_held holds).1 ▸ holds)
    · exact absurd late.of_singleton.1 (opens c)
  exact fun c d sameThread unended unended' =>
    ledger.single c d sameThread (before c unended) (before d unended')

/-- What a step logs is looked at goal by goal. -/
theorem step_single (ledger : Ledger b) (taken : Step b b') {log : List Exchange}
    (part : log <+: b'.log) : log <+: b.log ∨ Single log := by
  have whole : Single b'.log := (ledger.step taken).single
  have last : ∀ {before : List Exchange} {e : Exchange}, before ++ [e] = b'.log →
      log <+: before ∨ Single log := by
    intro before e logged
    rw [← logged] at part
    rcases List.prefix_concat_iff.mp part with same | shorter
    · exact .inr (same ▸ logged ▸ whole)
    · exact .inl shorter
  cases taken with
  | newThread session => exact .inl part
  | aside _ => exact last rfl
  | refused _ _ _ _ => exact last rfl
  | opened _ _ _ _ => exact last rfl
  | answered _ _ => exact last rfl
  | @ended n a ending holds ends =>
      cases ends with
      | done _ => exact last rfl
      | stopped => exact last rfl
      | @thrown reply reply' term _ =>
          -- The answer was thrown, and the query has not been stopped yet.
          rcases last (List.append_assoc b.log [⟨.next a, reply⟩] [⟨.stop a, reply'⟩]) with
            shorter | single
          · rcases List.prefix_concat_iff.mp shorter with rfl | shorter
            · refine .inr (ledger.single_of_held holds rfl ?_)
              rintro c ⟨⟨session, source, start⟩, -⟩
              cases start
            · exact .inl shorter
          · exact .inr single

/-- Along a chain of steps a thread has never more than one query without an ending. -/
theorem steps_single (ledger : Ledger b) (taken : Relation.ReflTransGen Step b b')
    (before : ∀ log, log <+: b.log → Single log) : ∀ log, log <+: b'.log → Single log := by
  induction taken with
  | refl => exact before
  | tail taken last ih =>
      intro log part
      rcases (ledger.steps taken).step_single last part with shorter | single
      · exact ih log shorter
      · exact single

end Ledger

end WorkspacePolicy.Bridge
