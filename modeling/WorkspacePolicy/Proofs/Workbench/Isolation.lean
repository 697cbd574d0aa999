/-
# Proofs.Workbench.Isolation — sessions behind the bridge are kept apart by their names

A move on a session, a thread or a sequence is made for this session or this thread
(`actorOf`), and so are the goals that are called during it (`history`). Whatever the moves are and
whatever the other side replies (`keepsApart`):

* the bridge program is loaded once, before the first goal;
* no two sessions have one module, and no two queries one name, also where one of them could
  not be opened;
* a goal names nothing but the module of the session for which it is called and queries that
  were started for the same thread; a session may also name the queries of its threads;
* a move changes nothing about the threads that it is not made for.

What a query does to its module on the other side is not looked at.
-/
import WorkspacePolicy.Proofs.Engine.Bridge.History
import WorkspacePolicy.Proofs.Workbench.AfterClose

namespace WorkspacePolicy.Bridge

set_option autoImplicit false

variable {s s' : State} {n k m : Nat}

/-! ## Threads, sequences and sessions -/

theorem ask_tells (k n : Nat) (s : State) :
    Tells (.thread k n) [n] s ((AnswerSequence.ask (thread n)).run s).2 := by
  rw [ask_state]
  exact .answer (List.mem_singleton_self n) s

theorem next_tells (k : Nat) {q : AnswerSequence State}
    (own : ∀ t, q.thread? = some t → t = thread n) (s : State) :
    Tells (.thread k n) [n] s (q.next.run s).2 := by
  cases q with
  | fresh t query =>
      obtain rfl := own t rfl
      have start : Tells (.thread k n) [n] s (((thread n).startQuery query).result s).2 := by
        rw [thread_startQuery_state]
        exact query_tells k n query s
      rw [AnswerSequence.next_fresh_eq]
      rcases started : ((thread n).startQuery query).result s with ⟨_ | _, s'⟩ <;>
        rw [started] at start
      · exact start
      · exact start.trans (ask_tells k n s')
  | running t =>
      obtain rfl := own t rfl
      exact ask_tells k n s
  | finished => exact .refl s

theorem drain_tells (k : Nat) {q : AnswerSequence State}
    (own : ∀ t, q.thread? = some t → t = thread n) (s : State) :
    Tells (.thread k n) [n] s (q.drain.run s).2 :=
  (Pull.drainAll_related (R := Tells (.thread k n) [n])
    (I := fun q => ∀ t, q.thread? = some t → t = thread n) .refl .trans
    (fun q s own => ⟨next_tells k own s, fun t same => own t (q.thread?_next s t same)⟩) own).1

theorem consultAll_tells {actor : Actor} {group : List Nat} {session : Session State}
    (main : session.main = thread n) (member : n ∈ group) (linkage source : String) (s : State) :
    Tells actor group s ((session.consultAll linkage source).result s).2 := by
  have one : ∀ text s, Tells actor group s ((session.main.consult text).result s).2 := by
    intro text s
    rw [main, thread_consult_state]
    exact .consult member text s
  unfold Session.consultAll
  exact Action.related_bind (R := Tells actor group) .trans (one linkage s) fun _ s _ =>
    Action.related_bind (R := Tells actor group) .trans (one _ s) fun _ s _ => one source s

/-! ## Moves -/

/-- The thread of the session layer as an actor. -/
def Actor.ofThread (s : State) (t : Thread State) : Actor :=
  .thread (s.threads.get t.number).session t.number

/-- For whom a move is made: the session, the thread, or the thread of the sequence that is used.
A move that makes a session is made for nobody. -/
def actorOf (bench : Workbench State) : Move State → Option Actor
  | .init m _ _ | .createThread m | .close m | .isClosed m =>
    bench.sessions[m]?.map fun session => .session session.inEngine
  | .consult m _ | .startQuery m _ | .makeQuery m _ =>
    bench.threads[m]?.map (.ofThread bench.world.backend)
  | .next m | .abandon m | .drain m =>
    match bench.sequences.get m with
    | .answers q => q.thread?.map (.ofThread bench.world.backend)
    | .rows _ => none
  | _ => none

/-- The goals that are called during a move. -/
def newGoals (bench : Workbench State) (move : Move State) : List Goal :=
  (bench.after move).world.backend.goals.drop bench.world.backend.goals.length

/-- The goals that are called during some moves, with those for whom they are called. -/
def history (bench : Workbench State) : List (Move State) → History
  | [] => []
  | move :: moves =>
    ((newGoals bench move).map fun g => (actorOf bench move, g)) ++
      history (bench.after move) moves

/-- What a move for an actor does: only threads that the actor holds are changed, goals are added
for the actor, and a session that is made is the next one of the engine. -/
structure Plays (bench bench' : Workbench State) (actor? : Option Actor) : Prop where
  others : ∀ n < bench.world.backend.threads.size,
    (∀ actor ∈ actor?, ¬ actor.Holds bench.world.backend n) →
      bench'.world.backend.threads.get n = bench.world.backend.threads.get n
  told : ∀ h, Tidy h bench.world.backend →
    ∃ goals : List Goal, Tidy (h ++ goals.map fun g => (actor?, g)) bench'.world.backend
  sessions : bench'.sessions = bench.sessions ∨ ∃ session,
    bench'.sessions = bench.sessions ++ [session] ∧
      session.inEngine = bench.world.backend.sessions.size

section

variable {bench bench' : Workbench State}

/-- A move that does not reach the engines. -/
theorem Plays.of_backend (backend : bench'.world.backend = bench.world.backend)
    (sessions : bench'.sessions = bench.sessions) (actor? : Option Actor) :
    Plays bench bench' actor? where
  others _ _ _ := by rw [backend]
  told h tidy := ⟨[], by rw [backend]; simpa using tidy⟩
  sessions := .inl sessions

/-- What is told for an actor with some threads is told in the history. -/
theorem Tells.told {actor : Actor} {group : List Nat} (tells : Tells actor group s s')
    (made : ∀ n ∈ group, n < s.threads.size) (held : ∀ n ∈ group, actor.Holds s n) (h : History)
    (tidy : Tidy h s) : ∃ goals : List Goal, Tidy (h ++ goals.map fun g => (some actor, g)) s' := by
  obtain ⟨goals, engaged⟩ := tells h ⟨tidy, made, held⟩
  exact ⟨goals, engaged.tidy⟩

theorem start_plays (bench : Workbench State) :
    Plays bench (bench.after (.start (.ok engine))) none := by
  obtain ⟨s₁, ready, loaded, threads, sessions, told⟩ := setup_tidy bench.world.backend
  have created := createSession_result (s := s₁)
  rw [bench.after_start, Session.start_of_opening ready created]
  refine ⟨fun n made _ => ?_, fun h tidy => ⟨[], ?_⟩,
    .inr ⟨_, rfl, congrArg Numbered.size sessions⟩⟩
  · rw [← threads] at made ⊢
    exact createThread_others made _
  · have added : Tidy h { s₁ with sessions := s₁.sessions.add ⟨[], false⟩ } :=
      (told h tidy).of_eq rfl rfl rfl
    rw [List.map_nil, List.append_nil]
    exact added.createThread loaded s₁.sessions.size

/-- A session that is made has a thread. -/
theorem start_made (bench : Workbench State) :
    0 < (bench.after (.start (.ok engine))).world.backend.threads.size := by
  obtain ⟨s₁, ready, -⟩ := setup_tidy bench.world.backend
  have created := createSession_result (s := s₁)
  rw [bench.after_start, Session.start_of_opening ready created]
  exact Nat.succ_pos _

/-- The work of a thread. -/
theorem thread_plays (known : Known bench) {backend : State}
    (made : n < bench.world.backend.threads.size)
    (within : StaysWithin (bench.world.backend.threads.get n).session [n] [] bench.world.backend
      backend)
    (tells : Tells (.ofThread bench.world.backend (thread n)) [n] bench.world.backend backend) :
    Plays bench (bench.withBackend backend)
      (some (.ofThread bench.world.backend (thread n))) where
  others m _ foreign := by
    refine (within known.roster.owned (by simp)).threads m fun member => ?_
    obtain rfl := List.mem_singleton.mp member
    exact foreign _ rfl ⟨rfl, rfl⟩
  told := tells.told (by simpa using made) fun m member => by
    obtain rfl := List.mem_singleton.mp member
    exact ⟨rfl, rfl⟩
  sessions := .inl rfl

/-- A session speaks for its main thread and for the threads that it lists. -/
theorem Known.holds (known : Known bench) {session : Session State}
    (found : bench.sessions[m]? = some session) : ∃ n, session.main = thread n ∧
      (bench.world.backend.threads.get n).session = session.inEngine ∧
      ∀ l ∈ n :: (bench.world.backend.sessions.get session.inEngine).threads,
        l < bench.world.backend.threads.size ∧
          (Actor.session session.inEngine).Holds bench.world.backend l := by
  obtain ⟨-, -, n, main, made, home⟩ := known.sessions session (List.mem_of_getElem? found)
  refine ⟨n, main, home, fun l member => ?_⟩
  rcases List.mem_cons.mp member with rfl | member
  · exact ⟨made, home, trivial⟩
  · obtain ⟨made, home⟩ := known.roster.members session.inEngine l member
    exact ⟨made, home, trivial⟩

/-- The work of a session, which may speak for all of its threads. -/
theorem session_plays (known : Known bench) {session : Session State}
    (found : bench.sessions[m]? = some session) {w : World State}
    (others : ∀ n < bench.world.backend.threads.size,
      (bench.world.backend.threads.get n).session ≠ session.inEngine →
        w.backend.threads.get n = bench.world.backend.threads.get n)
    (tells : ∀ n, session.main = thread n → Tells (.session session.inEngine)
      (n :: (bench.world.backend.sessions.get session.inEngine).threads)
      bench.world.backend w.backend) :
    Plays bench { bench with world := w } (some (.session session.inEngine)) where
  others n made foreign := others n made fun home => foreign _ rfl ⟨home, trivial⟩
  told := by
    obtain ⟨n, main, -, holds⟩ := known.holds found
    exact (tells n main).told (fun l member => (holds l member).1) fun l member =>
      (holds l member).2
  sessions := .inl rfl

theorem init_plays (known : Known bench) {session : Session State}
    (found : bench.sessions[m]? = some session) (linkage source : String) :
    Plays bench (bench.after (.init m linkage source)) (some (.session session.inEngine)) := by
  obtain ⟨ours, -⟩ := known.sessions session (List.mem_of_getElem? found)
  obtain ⟨n, main, home, -⟩ := known.holds found
  let consulted := ((session.consultAll linkage source).result bench.world.backend).2
  have within : Within session.inEngine [n] [] bench.world.backend consulted :=
    consultAll_staysWithin main (List.mem_singleton_self n) linkage source known.roster.owned
      (by simpa using home)
  have others : ∀ l, (bench.world.backend.threads.get l).session ≠ session.inEngine →
      consulted.threads.get l = bench.world.backend.threads.get l := fun l foreign =>
    within.threads l fun member => foreign (List.mem_singleton.mp member ▸ home)
  have tells : ∀ n, session.main = thread n → Tells (.session session.inEngine)
      (n :: (bench.world.backend.sessions.get session.inEngine).threads)
      bench.world.backend consulted :=
    fun n main => consultAll_tells main List.mem_cons_self linkage source _
  rw [Workbench.after_init found]
  rcases init_backend (w := bench.world) ours linkage source with backend | backend
  · exact session_plays known found (fun l _ foreign => by rw [backend, others l foreign])
      fun n main => by rw [backend]; exact tells n main
  · refine session_plays known found (fun l _ foreign => ?_) fun n main => ?_ <;> rw [backend]
    · rw [close_others (known.roster.of_within within) (by rwa [within.home]), others l foreign]
    · refine (tells n main).trans (close_tells session.inEngine (fun l member => ?_)
        List.mem_cons_self)
      rw [within.sessions _ List.not_mem_nil] at member
      exact List.mem_cons_of_mem _ member

theorem createThread_plays (known : Known bench) {session : Session State}
    (found : bench.sessions[m]? = some session) :
    Plays bench (bench.after (.createThread m)) (some (.session session.inEngine)) := by
  obtain ⟨ours, -, n, main, made, -⟩ := known.sessions session (List.mem_of_getElem? found)
  rw [Workbench.after_createThread found, Session.createThread_eq]
  cases closed : session.isClosed bench.world with
  | true => exact .of_backend rfl rfl _
  | false =>
      rw [ours]
      refine ⟨fun l made _ => createThread_others made _, fun h tidy => ⟨[], ?_⟩, .inl rfl⟩
      have loaded := tidy.ready (Nat.lt_of_le_of_lt (Nat.zero_le n) made)
      rw [List.map_nil, List.append_nil]
      exact tidy.createThread loaded session.inEngine

theorem close_plays (known : Known bench) {session : Session State}
    (found : bench.sessions[m]? = some session) :
    Plays bench (bench.after (.close m)) (some (.session session.inEngine)) := by
  obtain ⟨ours, -⟩ := known.sessions session (List.mem_of_getElem? found)
  rw [Workbench.after_close found]
  rcases session_close_backend (w := bench.world) ours with backend | backend
  · refine .of_backend ?_ ?_ _
    · exact backend
    · rfl
  · refine session_plays known found (fun l _ foreign => ?_) fun n main => ?_ <;> rw [backend]
    · exact close_others known.roster foreign
    · exact close_tells session.inEngine (fun l member => List.mem_cons_of_mem _ member)
        List.mem_cons_self

/-- A sequence that is used works for its thread, if it still has one. -/
theorem sequence_plays (known : Known bench) {q q' : AnswerSequence State} {s' : State}
    (found : bench.sequences.get m = .answers q)
    (within : ∀ n, (∀ t, q.thread? = some t → t = thread n) →
      StaysWithin (bench.world.backend.threads.get n).session [n] [] bench.world.backend s' ∧
        Tells (.ofThread bench.world.backend (thread n)) [n] bench.world.backend s')
    (finished : q.thread? = none → s' = bench.world.backend) :
    Plays bench { bench.withBackend s' with
        sequences := bench.sequences.set m (.answers q') }
      (q.thread?.map (.ofThread bench.world.backend)) := by
  obtain ⟨q₀, found₀, threads⟩ := known.sequences m
  obtain rfl : q = q₀ := AnySequence.answers.inj (found.symm.trans found₀)
  cases own : q.thread? with
  | none =>
      refine .of_backend ?_ ?_ _
      · exact finished own
      · rfl
  | some t =>
      obtain ⟨n, rfl, made⟩ := threads t own
      obtain ⟨stays, tells⟩ := within n fun t same => Option.some.inj (same.symm.trans own)
      obtain ⟨others, told, -⟩ := thread_plays known made stays tells
      exact ⟨others, told, .inl rfl⟩

/-- **A move is played for its actor.** -/
theorem after_plays (known : Known bench) {move : Move State} (isMove : IsSessionMove move) :
    Plays bench (bench.after move) (actorOf bench move) := by
  have idle : bench.after move = bench → Plays bench (bench.after move) (actorOf bench move) :=
    fun same => .of_backend (by rw [same]) (by rw [same]) _
  cases move with
  | start given =>
      obtain rfl : given = .ok engine := isMove
      exact start_plays bench
  | init m linkage source =>
      cases found : bench.sessions[m]? with
      | none => exact idle ((Workbench.after_of_noSession found).1 ..)
      | some session =>
          simp only [actorOf, found, Option.map_some]
          exact init_plays known found linkage source
  | createThread m =>
      cases found : bench.sessions[m]? with
      | none => exact idle (Workbench.after_of_noSession found).2.1
      | some session =>
          simp only [actorOf, found, Option.map_some]
          exact createThread_plays known found
  | close m =>
      cases found : bench.sessions[m]? with
      | none => exact idle (Workbench.after_of_noSession found).2.2
      | some session =>
          simp only [actorOf, found, Option.map_some]
          exact close_plays known found
  | isClosed m => exact idle (Workbench.after_isClosed m)
  | consult m source =>
      cases found : bench.threads[m]? with
      | none => exact idle (Workbench.after_of_noThread found source).1
      | some t =>
          obtain ⟨n, rfl, made⟩ := known.threads t (List.mem_of_getElem? found)
          simp only [actorOf, found, Option.map_some]
          rw [Workbench.after_consult found, thread_consult_state]
          exact thread_plays known made (consult_staysWithin (List.mem_singleton_self n) source)
            (.consult (List.mem_singleton_self n) source _)
  | startQuery m source =>
      cases found : bench.threads[m]? with
      | none => exact idle (Workbench.after_of_noThread found source).2.1
      | some t =>
          obtain ⟨n, rfl, made⟩ := known.threads t (List.mem_of_getElem? found)
          simp only [actorOf, found, Option.map_some]
          rw [Workbench.after_startQuery found, thread_startQuery_state]
          exact thread_plays known made (query_staysWithin (List.mem_singleton_self n) source)
            (query_tells _ n source _)
  | makeQuery m query =>
      cases found : bench.threads[m]? with
      | none => exact idle (Workbench.after_of_noThread found query).2.2
      | some t =>
          rw [Workbench.after_makeQuery found]
          refine .of_backend ?_ ?_ _ <;> rfl
  | next m =>
      obtain ⟨q, found, -⟩ := known.sequences m
      simp only [actorOf, found]
      rw [Workbench.after, Workbench.next_answers_result found]
      refine sequence_plays known found (fun n own =>
        ⟨next_staysWithin (List.mem_singleton_self n) own, next_tells _ own _⟩) fun none => ?_
      cases q with
      | finished => rfl
      | fresh | running => cases none
  | abandon m =>
      obtain ⟨q, found, -⟩ := known.sequences m
      rw [Workbench.after, Workbench.abandon_answers_result found]
      refine .of_backend ?_ ?_ _ <;> rfl
  | drain m =>
      obtain ⟨q, found, -⟩ := known.sequences m
      simp only [actorOf, found]
      rw [Workbench.after, Workbench.drain_answers_result found]
      refine sequence_plays known found (fun n own =>
        ⟨drain_staysWithin (List.mem_singleton_self n) own, drain_tells _ own _⟩) fun none => ?_
      cases q with
      | finished => rfl
      | fresh | running => cases none
  | closeInEngine m => exact isMove.elim
  | createSession policy => exact isMove.elim
  | query policy query context session => exact isMove.elim
  | evaluate policy => exact isMove.elim

end

/-! ## Runs -/

/-- What keeps sessions apart in a run of moves. -/
structure KeepsApart (bench : Workbench State) (moves : List (Move State)) : Prop where
  /-- With the first session, the program is loaded once, before any goal. -/
  loaded : .start (.ok engine) ∈ moves → (bench.run moves).world.backend.trace =
    .load :: (bench.run moves).world.backend.goals.map .call
  /-- No two sessions share a module. -/
  modules : ((bench.run moves).sessions.map fun session => moduleName session.inEngine).Nodup
  /-- No two queries are started under one name. -/
  names : ((bench.run moves).world.backend.goals.filterMap fun g =>
    g.opened?.map Alias.text).Nodup
  /-- The history tells of all goals that are called. -/
  told : (history bench moves).goals = (bench.run moves).world.backend.goals
  /-- Every goal keeps to what is its actor's. -/
  keeps : ∀ before actor? goal later, history bench moves = before ++ (actor?, goal) :: later →
    History.Keeps before actor? goal
  /-- A move leaves the threads that it is not made for as they are. -/
  others : ∀ before move later, moves = before ++ move :: later →
    ∀ n < (bench.run before).world.backend.threads.size,
      (∀ actor ∈ actorOf (bench.run before) move,
        ¬ actor.Holds (bench.run before).world.backend n) →
      ((bench.run before).after move).world.backend.threads.get n =
        (bench.run before).world.backend.threads.get n

section

variable {bench : Workbench State} {h : History} {moves : List (Move State)}

/-- The goals that a move adds to a tidy history are those that are called during it. -/
theorem newGoals_tidy (known : Known bench) {move : Move State} (isMove : IsSessionMove move)
    (tidy : Tidy h bench.world.backend) :
    Tidy (h ++ (newGoals bench move).map fun g => (actorOf bench move, g))
      (bench.after move).world.backend := by
  obtain ⟨goals, after⟩ := (after_plays known isMove).told h tidy
  have added : (bench.after move).world.backend.goals = bench.world.backend.goals ++ goals := by
    rw [after.goals_eq, tidy.goals_eq, History.goals_append, History.goals_ofActor]
  have same : newGoals bench move = goals := by
    rw [newGoals, added, List.drop_left]
  rwa [same]

/-- Moves keep the history tidy, and the sessions in the engine different. -/
theorem run_tidy (known : Known bench) (tidy : Tidy h bench.world.backend)
    (distinct : (bench.sessions.map Session.inEngine).Nodup)
    (areMoves : ∀ move ∈ moves, IsSessionMove move) :
    Tidy (h ++ history bench moves) (bench.run moves).world.backend ∧
      ((bench.run moves).sessions.map Session.inEngine).Nodup := by
  induction moves generalizing bench h with
  | nil =>
      rw [history, List.append_nil]
      exact ⟨tidy, distinct⟩
  | cons move moves ih =>
      obtain ⟨isMove, others⟩ := List.forall_mem_cons.mp areMoves
      have knownAfter := (after_advances known isMove).known
      have distinctAfter : ((bench.after move).sessions.map Session.inEngine).Nodup := by
        rcases (after_plays known isMove).sessions with same | ⟨session, added, fresh⟩
        · rwa [same]
        · rw [added, List.map_append, List.nodup_append]
          refine ⟨distinct, List.nodup_cons.mpr ⟨List.not_mem_nil, List.nodup_nil⟩, ?_⟩
          rintro k member _ last rfl
          obtain ⟨old, listed, rfl⟩ := List.mem_map.mp member
          have made := (known.sessions old listed).made
          rw [List.mem_singleton.mp last] at made
          exact Nat.lt_irrefl _ (fresh ▸ made)
      obtain ⟨last, distinctLast⟩ :=
        ih knownAfter (newGoals_tidy known isMove tidy) distinctAfter others
      rw [List.append_assoc] at last
      exact ⟨last, distinctLast⟩

/-- The names of the queries that were started are as different as the queries. -/
theorem nodup_names (tidy : Tidy h s) :
    (s.goals.filterMap fun g => g.opened?.map Alias.text).Nodup := by
  have names : (h.opened.map Alias.text) =
      s.goals.filterMap fun g => g.opened?.map Alias.text := by
    rw [tidy.goals_eq, History.opened, List.map_filterMap]
  rw [← names]
  exact List.Pairwise.map Alias.text
    (fun _ _ different same => different (Alias.text_injective same)) tidy.unique

end

/-- **Sessions behind the bridge are kept apart by their names**, whatever is done with them and
their threads in whatever order, and whatever the other side replies. -/
theorem keepsApart (replies : List Reply) {moves : List (Move State)}
    (areMoves : ∀ move ∈ moves, IsSessionMove move) :
    KeepsApart (.initial (.initial replies)) moves := by
  obtain ⟨tidy, distinct⟩ := run_tidy (.initial replies) (initial_tidy replies) List.nodup_nil areMoves
  rw [List.nil_append] at tidy
  refine ⟨fun started => ?_, ?_, nodup_names tidy, tidy.goals_eq.symm, tidy.keeps, ?_⟩
  · obtain ⟨before, later, rfl⟩ := List.append_of_mem started
    obtain ⟨knownBefore, -⟩ := run_known (.initial replies) fun m member =>
      areMoves m (List.mem_append_left _ member)
    have step := after_advances knownBefore (areMoves (.start (.ok engine)) (by simp))
    obtain ⟨-, grown⟩ := run_known step.known fun m member =>
      areMoves m (List.mem_append_right _ (List.mem_cons_of_mem _ member))
    have made := Nat.lt_of_lt_of_le (start_made _) grown.threadCount
    rw [Workbench.run_append] at tidy ⊢
    rw [tidy.trace, tidy.goals_eq, tidy.ready made]
    rfl
  · rw [List.Nodup, List.pairwise_map] at distinct ⊢
    exact distinct.imp fun different same => different (moduleName_injective same)
  · rintro before move later rfl
    obtain ⟨knownBefore, -⟩ := run_known (.initial replies) fun m member =>
      areMoves m (List.mem_append_left _ member)
    exact (after_plays knownBefore (areMoves move (by simp))).others

/-- Two sessions: the first one fails to open a query and opens another, and it is closed after
the second one has opened one as well. -/
def neighbours : List (Move State) :=
  [.start (.ok engine), .start (.ok engine), .startQuery 0 "p(", .startQuery 0 "p.",
    .startQuery 1 "q.", .close 0]

/-- The replies to `neighbours`. -/
def neighbourReplies : List Reply :=
  [⟨true, [("R", .array [.string "throw", .array [.string "atom", .string "oops"]])]⟩,
    ⟨true, [("R", .array [.string "ok"])]⟩, ⟨true, [("R", .array [.string "ok"])]⟩,
    ⟨true, []⟩, ⟨true, []⟩]

theorem keepsApart_neighbours : KeepsApart (.initial (.initial neighbourReplies)) neighbours ∧
    history (.initial (.initial neighbourReplies)) neighbours =
      [(some (.thread 0 0), .start 0 ⟨0, 0, 0⟩ "p("), (some (.thread 0 0), .start 0 ⟨0, 0, 1⟩ "p."),
        (some (.thread 1 1), .start 1 ⟨1, 1, 0⟩ "q."), (some (.session 0), .stop ⟨0, 0, 1⟩),
        (some (.session 0), .dispose 0)] := by
  have areMoves : ∀ move ∈ neighbours, IsSessionMove move := by
    simp [neighbours, IsSessionMove]
  exact ⟨keepsApart neighbourReplies areMoves, by decide +kernel⟩

end WorkspacePolicy.Bridge
