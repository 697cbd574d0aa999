/-
# Proofs.Workbench.AfterClose — when a session is used after its module was disposed of

Sessions behind the bridge are used through moves on sessions, threads and sequences of answers
(`IsSessionMove`). Whatever was started before a session was closed is silent after it: further
pulls, giving up, closing again, asking for another thread. But nothing keeps a thread from
starting something new. A run uses a session again exactly if it makes a move that starts a
consult or a query in a session that has been disposed of (`usedAgain_iff`).
-/
import WorkspacePolicy.Proofs.Engine.Bridge.Quiet
import WorkspacePolicy.Proofs.Session.Bridge
import WorkspacePolicy.Proofs.Workbench.Moves

namespace WorkspacePolicy.Bridge

set_option autoImplicit false

variable {s s' : State} {n k : Nat}

/-! ## The workbench -/

/-- A move on sessions, threads and sequences of answers behind the bridge. -/
def IsSessionMove : Move State → Prop
  | .start given => given = .ok engine
  | .init .. | .createThread _ | .close _ | .isClosed _ | .consult .. | .startQuery .. => True
  | .makeQuery .. | .next _ | .abandon _ | .drain _ => True
  | .closeInEngine _ | .createSession _ | .query .. | .evaluate _ => False

/-- The session in which a move starts something, if it does: the texts of a session, a text, or
a query, be it at once or at the first step of a sequence. -/
def startsIn (bench : Workbench State) : Move State → Option Nat
  | .init m _ _ => bench.sessions[m]?.map Session.inEngine
  | .consult m _ | .startQuery m _ =>
    bench.threads[m]?.map fun t => (bench.world.backend.threads.get t.number).session
  | .next m | .drain m =>
    match bench.sequences.get m with
    | .answers (.fresh t _) => some (bench.world.backend.threads.get t.number).session
    | _ => none
  | _ => none

/-- The thread has been made. -/
def IsThread (s : State) (t : Thread State) : Prop := ∃ n, t = thread n ∧ n < s.threads.size

/-- The session has been made, and its main thread is in it. -/
structure IsSession (s : State) (session : Session State) : Prop where
  ours : session.engine = engine
  made : session.inEngine < s.sessions.size
  main : ∃ n, session.main = thread n ∧ n < s.threads.size ∧
    (s.threads.get n).session = session.inEngine

theorem IsThread.mono {t : Thread State} (grown : Extends s s') (known : IsThread s t) :
    IsThread s' t := by
  obtain ⟨n, same, made⟩ := known
  exact ⟨n, same, Nat.lt_of_lt_of_le made grown.threadCount⟩

theorem IsSession.mono {session : Session State} (grown : Extends s s')
    (known : IsSession s session) : IsSession s' session := by
  obtain ⟨n, main, made, home⟩ := known.main
  exact ⟨known.ours, Nat.lt_of_lt_of_le known.made grown.sessionCount, n, main,
    Nat.lt_of_lt_of_le made grown.threadCount, (grown.home n made).trans home⟩

/-- The sessions and threads of the workbench have been made, and its sequences give answers. -/
structure Known (bench : Workbench State) : Prop where
  roster : Roster bench.world.backend
  sessions : ∀ session ∈ bench.sessions, IsSession bench.world.backend session
  threads : ∀ t ∈ bench.threads, IsThread bench.world.backend t
  sequences : ∀ m, ∃ q, bench.sequences.get m = .answers q ∧
    ∀ t, q.thread? = some t → IsThread bench.world.backend t

namespace Known

variable {bench : Workbench State} {w : World State}

theorem initial (replies : List Reply) : Known (.initial (.initial replies)) where
  roster := .initial replies
  sessions _ member := absurd member List.not_mem_nil
  threads _ member := absurd member List.not_mem_nil
  sequences _ := ⟨.finished, rfl, fun _ same => nomatch same⟩

theorem withWorld (known : Known bench) (roster : Roster w.backend)
    (grown : Extends bench.world.backend w.backend) : Known { bench with world := w } := by
  refine ⟨roster, fun session member => (known.sessions session member).mono grown,
    fun t member => (known.threads t member).mono grown, fun m => ?_⟩
  obtain ⟨q, found, own⟩ := known.sequences m
  exact ⟨q, found, fun t same => (own t same).mono grown⟩

theorem addThread (known : Known bench) {t : Thread State}
    (isThread : IsThread bench.world.backend t) :
    Known { bench with threads := bench.threads ++ [t] } := by
  refine ⟨known.roster, known.sessions, fun t' member => ?_, known.sequences⟩
  rcases List.mem_append.mp member with member | member
  · exact known.threads t' member
  · rwa [List.mem_singleton.mp member]

theorem addSession (known : Known bench) {session : Session State}
    (isSession : IsSession bench.world.backend session) :
    Known { bench with sessions := bench.sessions ++ [session],
                       threads := bench.threads ++ [session.main] } := by
  obtain ⟨n, main, made, -⟩ := isSession.main
  have added := known.addThread ⟨n, main, made⟩
  refine ⟨known.roster, fun other member => ?_, added.threads, known.sequences⟩
  rcases List.mem_append.mp member with member | member
  · exact known.sessions other member
  · rwa [List.mem_singleton.mp member]

theorem setSequence (known : Known bench) (m : Nat) {q : AnswerSequence State}
    (own : ∀ t, q.thread? = some t → IsThread bench.world.backend t) :
    Known { bench with sequences := bench.sequences.set m (.answers q) } := by
  refine ⟨known.roster, known.sessions, known.threads, fun m' => ?_⟩
  simp only [Numbered.get_set]
  split
  · exact ⟨q, rfl, own⟩
  · exact known.sequences m'

theorem addSequence (known : Known bench) {q : AnswerSequence State}
    (own : ∀ t, q.thread? = some t → IsThread bench.world.backend t) :
    Known { bench with sequences := bench.sequences.add (.answers q) } := by
  refine ⟨known.roster, known.sessions, known.threads, fun m => ?_⟩
  simp only [Numbered.get_add]
  split
  · exact ⟨q, rfl, own⟩
  · exact known.sequences m

end Known

/-- What a move does to a workbench: it stays known, the engines go on, and they stay quiet
unless something is started in a session that has been disposed of. -/
structure Advances (bench bench' : Workbench State) (started : Option Nat) : Prop where
  known : Known bench'
  grown : Extends bench.world.backend bench'.world.backend
  quiet : (∀ k ∈ started, .dispose k ∉ bench.world.backend.goals) →
    Quiet bench.world.backend → Quiet bench'.world.backend

section

variable {bench : Workbench State} {m : Nat} {started : Option Nat}

theorem Advances.refl (known : Known bench) : Advances bench bench started :=
  ⟨known, .refl _, fun _ quiet => quiet⟩

theorem start_advances (known : Known bench) :
    Advances bench (bench.after (.start (.ok engine))) started := by
  let s := bench.world.backend
  obtain ⟨s₁, ready, roster, grown, quiet⟩ : ∃ s₁, setup.result s = (.ok (), s₁) ∧ Roster s₁ ∧
      Extends s s₁ ∧ (Quiet s → Quiet s₁) := by
    rcases setup_result (s := s) with given | given
    · exact ⟨s, given, known.roster, .refl s, fun quiet => quiet⟩
    · have goals : ({ s with loaded := true, trace := s.trace ++ [.load] } : State).goals =
          s.goals := by simp [State.goals, Event.goal?]
      obtain ⟨homes, members, listed, owned⟩ := known.roster
      refine ⟨_, given, ⟨homes, members, listed, owned⟩,
        ⟨Nat.le_refl _, Nat.le_refl _, fun _ _ => rfl, goals ▸ List.prefix_rfl⟩,
        fun quiet => ⟨fun k => ?_, fun k => ?_, fun n k => ?_, ?_⟩⟩ <;> rw [goals]
      · exact quiet.known k
      · exact quiet.closed k
      · exact quiet.idle n k
      · exact quiet.unused
  have created := createSession_result (s := s₁)
  rw [bench.after_start, Session.start_of_opening ready created]
  have grownAll := grown.trans (createSession_extends s₁)
  have known₂ := known.withWorld (w := ⟨(createSession.result s₁).2, bench.world.closed.add false⟩)
    roster.createSession grownAll
  refine ⟨known₂.addSession ⟨rfl, Nat.lt_succ_self _, s₁.threads.size, rfl, Nat.lt_succ_self _, ?_⟩,
    grownAll, fun _ before => createSession_quiet (quiet before)⟩
  rw [createSession_result, createThread_result]
  simp

theorem init_advances (known : Known bench) {session : Session State}
    (found : bench.sessions[m]? = some session) (linkage source : String) :
    Advances bench (bench.after (.init m linkage source)) (some session.inEngine) := by
  let s := bench.world.backend
  obtain ⟨ours, made, n, main, -, home⟩ := known.sessions session (List.mem_of_getElem? found)
  have within : Within session.inEngine [n] [] s ((session.consultAll linkage source).result s).2 :=
    consultAll_staysWithin main (List.mem_singleton_self n) linkage source known.roster.owned
      (by simpa using home)
  have roster := known.roster.of_within within
  have quiet : .dispose session.inEngine ∉ s.goals → Quiet s →
      Quiet ((session.consultAll linkage source).result s).2 := fun undisposed quiet =>
    quiet.of_within within (by simpa using home) undisposed
  rw [Workbench.after_init found]
  rcases init_backend (w := bench.world) ours linkage source with backend | backend
  · exact ⟨known.withWorld (backend ▸ roster) (backend ▸ within.grows), backend ▸ within.grows,
      fun undisposed before => backend ▸ quiet (undisposed _ rfl) before⟩
  · have grown := within.grows.trans (close_extends roster session.inEngine)
    exact ⟨known.withWorld (backend ▸ roster.close) (backend ▸ grown), backend ▸ grown,
      fun undisposed before => backend ▸
        close_quiet roster (quiet (undisposed _ rfl) before) (within.sessionCount ▸ made)⟩

theorem createThread_advances (known : Known bench) {session : Session State}
    (found : bench.sessions[m]? = some session) :
    Advances bench (bench.after (.createThread m)) started := by
  obtain ⟨ours, made, -⟩ := known.sessions session (List.mem_of_getElem? found)
  rw [Workbench.after_createThread found, Session.createThread_eq]
  cases closed : session.isClosed bench.world with
  | true => exact .refl known
  | false =>
    rw [ours]
    have grown := createThread_extends bench.world.backend session.inEngine
    have known' := known.withWorld (w := { bench.world with
        backend := ((createThread session.inEngine).result bench.world.backend).2 })
      (known.roster.createThread made) grown
    exact ⟨known'.addThread ⟨bench.world.backend.threads.size, rfl, Nat.lt_succ_self _⟩, grown,
      fun _ quiet => createThread_quiet quiet _⟩

theorem close_advances (known : Known bench) {session : Session State}
    (found : bench.sessions[m]? = some session) :
    Advances bench (bench.after (.close m)) started := by
  obtain ⟨ours, made, -⟩ := known.sessions session (List.mem_of_getElem? found)
  rw [Workbench.after_close found]
  rcases session_close_backend (w := bench.world) ours with backend | backend
  · exact ⟨known.withWorld (backend ▸ known.roster) (backend ▸ .refl _), backend ▸ .refl _,
      fun _ quiet => backend ▸ quiet⟩
  · have grown := close_extends known.roster session.inEngine
    exact ⟨known.withWorld (backend ▸ known.roster.close) (backend ▸ grown), backend ▸ grown,
      fun _ quiet => backend ▸ close_quiet known.roster quiet made⟩

/-- Work of one thread keeps the engines quiet where its session has not been disposed of, and
where a thread without a current query does nothing. -/
theorem thread_advances (known : Known bench) {s' : State}
    (made : n < bench.world.backend.threads.size)
    (within : StaysWithin (bench.world.backend.threads.get n).session [n] [] bench.world.backend s')
    (starts : started = some (bench.world.backend.threads.get n).session ∨
      ((bench.world.backend.threads.get n).current = none → s' = bench.world.backend)) :
    Advances bench (bench.withBackend s') started := by
  have inside := within known.roster.owned (by simp)
  refine ⟨known.withWorld (known.roster.of_within inside) inside.grows, inside.grows,
    fun undisposed quiet => ?_⟩
  by_cases disposed :
      .dispose (bench.world.backend.threads.get n).session ∈ bench.world.backend.goals
  · rcases starts with start | silent
    · exact absurd disposed (undisposed _ start)
    · have same := silent (quiet.idle n _ made rfl disposed)
      exact same ▸ quiet
  · exact quiet.of_within inside (by simp) disposed

theorem consult_advances (known : Known bench) {t : Thread State}
    (found : bench.threads[m]? = some t) (source : String) :
    Advances bench (bench.after (.consult m source))
      (some (bench.world.backend.threads.get t.number).session) := by
  obtain ⟨n, rfl, made⟩ := known.threads t (List.mem_of_getElem? found)
  rw [Workbench.after_consult found, thread_consult_state]
  exact thread_advances known made (consult_staysWithin (List.mem_singleton_self n) source)
    (.inl rfl)

theorem startQuery_advances (known : Known bench) {t : Thread State}
    (found : bench.threads[m]? = some t) (source : String) :
    Advances bench (bench.after (.startQuery m source))
      (some (bench.world.backend.threads.get t.number).session) := by
  obtain ⟨n, rfl, made⟩ := known.threads t (List.mem_of_getElem? found)
  rw [Workbench.after_startQuery found, thread_startQuery_state]
  exact thread_advances known made (query_staysWithin (List.mem_singleton_self n) source)
    (.inl rfl)

/-- A step of a sequence starts its query, or it asks for an answer of one that was started. -/
theorem sequence_advances (known : Known bench) {q q' : AnswerSequence State} {s' : State}
    (found : bench.sequences.get m = .answers q)
    (within : ∀ n, (∀ t, q.thread? = some t → t = thread n) →
      StaysWithin (bench.world.backend.threads.get n).session [n] [] bench.world.backend s')
    (silent : ∀ n, q = .running (thread n) → (bench.world.backend.threads.get n).current = none →
      s' = bench.world.backend)
    (finished : q = .finished → s' = bench.world.backend)
    (own : ∀ t, q'.thread? = some t → q.thread? = some t) :
    Advances bench { bench.withBackend s' with
        sequences := bench.sequences.set m (.answers q') } (startsIn bench (.next m)) := by
  obtain ⟨q₀, found₀, threads⟩ := known.sequences m
  obtain rfl : q = q₀ := AnySequence.answers.inj (found.symm.trans found₀)
  have worked : Advances bench (bench.withBackend s') (startsIn bench (.next m)) := by
    cases q with
    | fresh t query =>
        obtain ⟨n, rfl, made⟩ := threads t rfl
        refine thread_advances known made (within n fun t same => (Option.some.inj same).symm)
          (.inl ?_)
        simp only [startsIn, found]
        rfl
    | running t =>
        obtain ⟨n, rfl, made⟩ := threads t rfl
        exact thread_advances known made (within n fun t same => (Option.some.inj same).symm)
          (.inr (silent n rfl))
    | finished =>
        rw [finished rfl]
        exact .refl known
  refine ⟨worked.known.setSequence m fun t same => ?_, worked.grown, worked.quiet⟩
  exact (threads t (own t same)).mono worked.grown

theorem next_advances (known : Known bench) :
    Advances bench (bench.after (.next m)) (startsIn bench (.next m)) := by
  obtain ⟨q, found, -⟩ := known.sequences m
  rw [Workbench.after, Workbench.next_answers_result found]
  refine sequence_advances known found
    (fun n own => next_staysWithin (List.mem_singleton_self n) own) ?_ ?_ (q.thread?_next _)
  · rintro n rfl idle
    exact congrArg Prod.snd (ask_of_idle idle)
  · rintro rfl
    rfl

theorem drain_advances (known : Known bench) :
    Advances bench (bench.after (.drain m)) (startsIn bench (.drain m)) := by
  obtain ⟨q, found, -⟩ := known.sequences m
  rw [Workbench.after, Workbench.drain_answers_result found]
  refine sequence_advances known found
    (fun n own => drain_staysWithin (List.mem_singleton_self n) own) ?_ ?_ (q.thread?_drain _)
  · rintro n rfl idle
    exact drain_of_idle idle
  · rintro rfl
    rfl

end

/-- **A move goes on quietly unless it starts something in a session that was disposed of.** -/
theorem after_advances {bench : Workbench State} (known : Known bench) {move : Move State}
    (isMove : IsSessionMove move) : Advances bench (bench.after move) (startsIn bench move) := by
  cases move with
  | start given =>
      obtain rfl : given = .ok engine := isMove
      exact start_advances known
  | init m linkage source =>
      cases found : bench.sessions[m]? with
      | none =>
          rw [(Workbench.after_of_noSession found).1]
          exact .refl known
      | some session =>
          simp only [startsIn, found, Option.map_some]
          exact init_advances known found linkage source
  | createThread m =>
      cases found : bench.sessions[m]? with
      | none =>
          rw [(Workbench.after_of_noSession found).2.1]
          exact .refl known
      | some session => exact createThread_advances known found
  | close m =>
      cases found : bench.sessions[m]? with
      | none =>
          rw [(Workbench.after_of_noSession found).2.2]
          exact .refl known
      | some session => exact close_advances known found
  | isClosed m =>
      rw [Workbench.after_isClosed]
      exact .refl known
  | consult m source =>
      cases found : bench.threads[m]? with
      | none =>
          rw [(Workbench.after_of_noThread found source).1]
          exact .refl known
      | some t =>
          simp only [startsIn, found, Option.map_some]
          exact consult_advances known found source
  | startQuery m source =>
      cases found : bench.threads[m]? with
      | none =>
          rw [(Workbench.after_of_noThread found source).2.1]
          exact .refl known
      | some t =>
          simp only [startsIn, found, Option.map_some]
          exact startQuery_advances known found source
  | makeQuery m query =>
      cases found : bench.threads[m]? with
      | none =>
          rw [(Workbench.after_of_noThread found query).2.2]
          exact .refl known
      | some t =>
          rw [Workbench.after_makeQuery found]
          have isThread := known.threads t (List.mem_of_getElem? found)
          refine ⟨known.addSequence fun t' same => ?_, .refl _, fun _ quiet => quiet⟩
          obtain rfl : t = t' := Option.some.inj same
          exact isThread
  | next m => exact next_advances known
  | abandon m =>
      obtain ⟨q, found, -⟩ := known.sequences m
      rw [Workbench.after, Workbench.abandon_answers_result found]
      exact ⟨known.setSequence m fun t same => (nomatch same), .refl _, fun _ quiet => quiet⟩
  | drain m => exact drain_advances known
  | closeInEngine m => exact isMove.elim
  | createSession policy => exact isMove.elim
  | query policy query context session => exact isMove.elim
  | evaluate policy => exact isMove.elim

/-! ## What a start calls -/

/-- The current query of a thread is stopped or, where there is none, a new one is started. -/
theorem query_uses (owned : s.Owned) (source : String) : ∃ g, g.Uses (s.threads.get n).session ∧
    s.goals ++ [g] <+: ((query n source).result s).2.goals := by
  have started : ∀ s₁, (stopCurrent n).result s = (.ok (), s₁) →
      ((query n source).result s).2.goals =
        s₁.goals ++ [.start (s₁.threads.get n).session (s₁.nextQuery n) source] := by
    intro s₁ stopped
    rcases query_state source stopped with state | state <;> rw [state] <;>
      simp [State.attempted, State.holding]
  cases current : (s.threads.get n).current with
  | none =>
      refine ⟨.start (s.threads.get n).session (s.nextQuery n) source,
        (Goal.uses_iff _).mpr (.inl rfl), ?_⟩
      exact started s (stopCurrent_of_none current) ▸ List.prefix_rfl
  | some a =>
      have stop := (stopCurrent_calls current).1
      rw [State.goals_called] at stop
      refine ⟨.stop a, (Goal.uses_iff _).mpr (.inr ⟨a, (owned n a current).1, rfl⟩), ?_⟩
      rcases stopped : (stopCurrent n).result s with ⟨failure | _, s₁⟩ <;> rw [stopped] at stop
      · rw [query_state_of_failure source stopped]
        exact stop ▸ List.prefix_rfl
      · rw [started s₁ stopped, ← stop]
        exact List.prefix_append ..

/-- The first text of a session is consulted, whatever comes of it. -/
theorem consultAll_uses {session : Session State} (main : session.main = thread n)
    (owned : s.Owned) (home : (s.threads.get n).session = k) (linkage source : String) :
    s.goals ++ [.consult k linkage] <+:
      ((session.consultAll linkage source).result s).2.goals := by
  have state : ((session.main.consult linkage).result s).2 = ((consult n linkage).result s).2 := by
    rw [main, thread_consult_state]
  have goals : ((session.main.consult linkage).result s).2.goals =
      s.goals ++ [.consult k linkage] := by
    rw [state, consult_goals, home]
  have first : Within k [n] [] s ((session.main.consult linkage).result s).2 := by
    rw [state]
    exact consult_staysWithin (List.mem_singleton_self n) linkage owned (by simpa using home)
  have more : ∀ text s, StaysWithin k [n] [] s ((session.main.consult text).result s).2 := by
    intro text s
    rw [main, thread_consult_state]
    exact consult_staysWithin (List.mem_singleton_self n) text
  unfold Session.consultAll
  rw [Action.result_bind]
  rcases given : (session.main.consult linkage).result s with ⟨failure | _, s₁⟩ <;>
    rw [given] at goals first
  · exact goals ▸ List.prefix_rfl
  · rw [← goals]
    have rest : StaysWithin k [n] [] s₁ ((do
        session.main.consult session.engine.supportLibrary
        session.main.consult source : Action State Unit).result s₁).2 :=
      Action.related_bind (R := StaysWithin k [n] []) .trans (more _ s₁) fun _ s _ => more source s
    refine (rest first.owned fun m member => ?_).grows.goals
    rw [List.mem_singleton.mp member]
    exact (first.home n).trans home

/-- Initialising a session consults in it first, also if that closes the session. -/
theorem init_uses {session : Session State} {w : World State} (roster : Roster w.backend)
    (ours : session.engine = engine) (main : session.main = thread n)
    (home : (w.backend.threads.get n).session = session.inEngine) (linkage source : String) :
    w.backend.goals ++ [.consult session.inEngine linkage] <+:
      ((session.init linkage source).result w).2.backend.goals := by
  have called := consultAll_uses main roster.owned home linkage source
  rcases init_backend (w := w) ours linkage source with backend | backend
  · rw [backend]
    exact called
  · have within := consultAll_staysWithin main (List.mem_singleton_self n) linkage source
      roster.owned (by simpa using home)
    rw [backend]
    exact called.trans (close_extends (roster.of_within within) session.inEngine).goals

/-- The first step of a sequence starts its query. -/
theorem next_fresh_uses (roster : Roster s) (query : String) :
    ∃ g, g.Uses (s.threads.get n).session ∧
      s.goals ++ [g] <+: ((AnswerSequence.fresh (thread n) query).next.run s).2.goals := by
  obtain ⟨g, uses, called⟩ := query_uses (n := n) roster.owned query
  refine ⟨g, uses, ?_⟩
  have within : Within (s.threads.get n).session [n] [] s ((Bridge.query n query).result s).2 :=
    query_staysWithin (List.mem_singleton_self n) query roster.owned (by simp)
  rw [← thread_startQuery_state] at called within
  rw [AnswerSequence.next_fresh_eq]
  rcases started : ((thread n).startQuery query).result s with ⟨failure | _, s₁⟩ <;>
    rw [started] at called within
  · exact called
  · have asked : Within (s.threads.get n).session [n] [] s₁
        ((AnswerSequence.ask (thread n)).run s₁).2 := by
      rw [ask_state]
      refine answer_staysWithin (List.mem_singleton_self n) within.owned fun m member => ?_
      rw [List.mem_singleton.mp member]
      exact within.home n
    exact called.trans asked.grows.goals

theorem drain_fresh_uses (roster : Roster s) (query : String) :
    ∃ g, g.Uses (s.threads.get n).session ∧
      s.goals ++ [g] <+: ((AnswerSequence.fresh (thread n) query).drain.run s).2.goals := by
  obtain ⟨g, uses, called⟩ := next_fresh_uses (n := n) roster query
  let home := (s.threads.get n).session
  let P : State → Prop := fun s' =>
    Roster s' ∧ (s'.threads.get n).session = home ∧ s.goals ++ [g] <+: s'.goals
  let I : AnswerSequence State → Prop := fun q => ∀ t, q.thread? = some t → t = thread n
  have within : ∀ (q : AnswerSequence State) s', I q → Roster s' →
      (s'.threads.get n).session = home → Within home [n] [] s' (q.next.run s').2 := by
    intro q s' own roster same
    exact next_staysWithin (List.mem_singleton_self n) own roster.owned (by simpa using same)
  have fresh : I (.fresh (thread n) query) := fun t same => (Option.some.inj same).symm
  have first := within _ s fresh roster rfl
  have last : P ((AnswerSequence.fresh (thread n) query).drain.run s).2 := by
    refine Pull.drainAll_of_first (I := I) ⟨roster.of_within first, first.home n, called⟩
      (fun t same => fresh t (AnswerSequence.thread?_next _ s t same)) fun q s' own => ⟨?_, ?_⟩
    · rintro ⟨roster', same, before⟩
      have step := within q s' own roster' same
      exact ⟨roster'.of_within step, (step.home n).trans same, before.trans step.grows.goals⟩
    · exact fun t same => own t (q.thread?_next s' t same)
  exact ⟨g, uses, last.2.2⟩

section

variable {bench : Workbench State}

/-- **A move that starts something calls a goal about the session in which it starts it.** -/
theorem after_uses (known : Known bench) {move : Move State}
    (starts : startsIn bench move = some k) : ∃ g, g.Uses k ∧
      bench.world.backend.goals ++ [g] <+: (bench.after move).world.backend.goals := by
  cases move with
  | init m linkage source =>
      obtain ⟨session, found, rfl⟩ := Option.map_eq_some_iff.mp starts
      obtain ⟨ours, -, n, main, -, home⟩ := known.sessions session (List.mem_of_getElem? found)
      refine ⟨.consult session.inEngine linkage, (Goal.uses_iff _).mpr (.inl rfl), ?_⟩
      rw [Workbench.after_init found]
      exact init_uses known.roster ours main home linkage source
  | consult m source =>
      obtain ⟨t, found, rfl⟩ := Option.map_eq_some_iff.mp starts
      obtain ⟨n, rfl, -⟩ := known.threads t (List.mem_of_getElem? found)
      rw [Workbench.after_consult found, thread_consult_state]
      refine ⟨.consult (bench.world.backend.threads.get n).session source,
        (Goal.uses_iff _).mpr (.inl rfl), ?_⟩
      rw [← consult_goals]
      exact List.prefix_rfl
  | startQuery m source =>
      obtain ⟨t, found, rfl⟩ := Option.map_eq_some_iff.mp starts
      obtain ⟨n, rfl, -⟩ := known.threads t (List.mem_of_getElem? found)
      rw [Workbench.after_startQuery found, thread_startQuery_state]
      exact query_uses known.roster.owned source
  | next m =>
      obtain ⟨q, found, threads⟩ := known.sequences m
      simp only [startsIn, found] at starts
      cases q with
      | fresh t query =>
          obtain ⟨n, rfl, -⟩ := threads t rfl
          obtain rfl := Option.some.inj starts
          rw [Workbench.after, Workbench.next_answers_result found]
          exact next_fresh_uses known.roster query
      | running t => cases starts
      | finished => cases starts
  | drain m =>
      obtain ⟨q, found, threads⟩ := known.sequences m
      simp only [startsIn, found] at starts
      cases q with
      | fresh t query =>
          obtain ⟨n, rfl, -⟩ := threads t rfl
          obtain rfl := Option.some.inj starts
          rw [Workbench.after, Workbench.drain_answers_result found]
          exact drain_fresh_uses known.roster query
      | running t => cases starts
      | finished => cases starts
  | start given => cases starts
  | createThread m => cases starts
  | close m => cases starts
  | closeInEngine m => cases starts
  | isClosed m => cases starts
  | makeQuery m query => cases starts
  | abandon m => cases starts
  | createSession policy => cases starts
  | query policy query context session => cases starts
  | evaluate policy => cases starts

/-- Moves keep a workbench known, and its engines go on. -/
theorem run_known (known : Known bench) {moves : List (Move State)}
    (areMoves : ∀ move ∈ moves, IsSessionMove move) : Known (bench.run moves) ∧
      Extends bench.world.backend (bench.run moves).world.backend := by
  induction moves generalizing bench with
  | nil => exact ⟨known, .refl _⟩
  | cons move moves ih =>
      obtain ⟨isMove, others⟩ := List.forall_mem_cons.mp areMoves
      have step := after_advances known isMove
      obtain ⟨last, grown⟩ := ih step.known others
      exact ⟨last, step.grown.trans grown⟩

/-- A run that uses a session again has started something in one that was disposed of. -/
theorem exists_start_of_usedAgain (known : Known bench) (quiet : Quiet bench.world.backend)
    {moves : List (Move State)} (areMoves : ∀ move ∈ moves, IsSessionMove move)
    (used : UsedAgain (bench.run moves).world.backend.goals) :
    ∃ before move later k, moves = before ++ move :: later ∧
      startsIn (bench.run before) move = some k ∧
      .dispose k ∈ (bench.run before).world.backend.goals := by
  induction moves generalizing bench with
  | nil => exact absurd used quiet.unused
  | cons move moves ih =>
      obtain ⟨isMove, others⟩ := List.forall_mem_cons.mp areMoves
      have step := after_advances known isMove
      by_cases started : ∃ k, startsIn bench move = some k ∧
          .dispose k ∈ bench.world.backend.goals
      · obtain ⟨k, starts, disposed⟩ := started
        exact ⟨[], move, moves, k, rfl, starts, disposed⟩
      · have undisposed : ∀ k ∈ startsIn bench move, .dispose k ∉ bench.world.backend.goals :=
          fun k starts disposed => started ⟨k, starts, disposed⟩
        obtain ⟨before, last, later, k, rfl, starts, disposed⟩ :=
          ih step.known (step.quiet undisposed quiet) others used
        exact ⟨move :: before, last, later, k, rfl, starts, disposed⟩

end

theorem quiet_initial (replies : List Reply) : Quiet (.initial replies) where
  known _ disposed := absurd disposed List.not_mem_nil
  closed _ disposed := absurd disposed List.not_mem_nil
  idle _ _ known := absurd known (Nat.not_lt_zero _)
  unused := by
    rintro ⟨before, k, later, parts, -⟩
    cases before <;> cases parts

/-- **A session is used again exactly if a move starts something in it after its module was
disposed of**, whatever the other side replies: nothing else that is done with a session, its
threads and its sequences reaches the other side after that. -/
theorem usedAgain_iff (replies : List Reply) {moves : List (Move State)}
    (areMoves : ∀ move ∈ moves, IsSessionMove move) :
    UsedAgain ((Workbench.initial (.initial replies)).run moves).world.backend.goals ↔
      ∃ before move later k, moves = before ++ move :: later ∧
        startsIn ((Workbench.initial (.initial replies)).run before) move = some k ∧
        .dispose k ∈ ((Workbench.initial (.initial replies)).run before).world.backend.goals := by
  constructor
  · exact exists_start_of_usedAgain (.initial replies) (quiet_initial replies) areMoves
  · rintro ⟨before, move, later, k, rfl, starts, disposed⟩
    obtain ⟨knownBefore, -⟩ := run_known (.initial replies) fun m member =>
      areMoves m (List.mem_append_left _ member)
    obtain ⟨g, uses, called⟩ := after_uses knownBefore starts
    have step := after_advances knownBefore (areMoves move (by simp))
    obtain ⟨-, grown⟩ := run_known step.known fun m member =>
      areMoves m (List.mem_append_right _ (List.mem_cons_of_mem _ member))
    obtain ⟨rest, goals⟩ := called.trans grown.goals
    have last : (Workbench.initial (.initial replies)).run (before ++ move :: later) =
        (((Workbench.initial (.initial replies)).run before).after move).run later :=
      Workbench.run_append ..
    rw [last, ← goals]
    exact (usedAgain_of_uses disposed uses).append rest

/-- A session is closed, and then its main thread starts a query. -/
def reopened : List (Move State) := [.start (.ok engine), .close 0, .startQuery 0 "p."]

/-- The replies to `reopened`: the module is disposed of, and the query is accepted. -/
def reopenedReplies : List Reply := [⟨true, []⟩, ⟨true, [("R", .array [.string "ok"])]⟩]

theorem usedAgain_reopened : UsedAgain
    ((Workbench.initial (.initial reopenedReplies)).run reopened).world.backend.goals := by
  have areMoves : ∀ move ∈ reopened, IsSessionMove move := by
    simp [reopened, IsSessionMove]
  refine (usedAgain_iff reopenedReplies areMoves).mpr
    ⟨[.start (.ok engine), .close 0], .startQuery 0 "p.", [], 0, rfl, ?_, ?_⟩
  · decide +kernel
  · decide +kernel

end WorkspacePolicy.Bridge
