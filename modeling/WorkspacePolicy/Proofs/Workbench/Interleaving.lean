/-
# Proofs.Workbench.Interleaving — sequences that take turns

Sequences on one workbench take turns in any order (`Workbench.play`): each turn asks one of them
for its next item or gives it up. On an engine that separates its threads, every sequence then
observes what it would observe if the others never had a turn (`play_filter_eq_play`).

Each sequence is followed by a view of its own (`Sight.sequenceView`), and its observations are
those that the view gives alone (`Sight.alone`). A turn follows the view of its sequence and leaves
the views of the others as they are, because none of them changes what another relies on
(`Peaceful.after_turn`); a whole run is by induction on its turns (`Peaceful.play_filter`).
-/
import WorkspacePolicy.Proofs.Policy.Rows
import WorkspacePolicy.Proofs.Workbench.Moves

namespace WorkspacePolicy

set_option autoImplicit false

/-- A request to one of the sequences. -/
structure Turn where
  sequence : Nat
  request : Request

def Turn.move {σ : Type} (turn : Turn) : Move σ :=
  match turn.request with
  | .next => .next turn.sequence
  | .abandon => .abandon turn.sequence

/-- What the sequences observe, turn by turn. -/
def Workbench.play {σ : Type} (bench : Workbench σ) :
    List Turn → List (Nat × Except Failure Outcome)
  | [] => []
  | turn :: rest =>
    (turn.sequence, ((perform turn.move).result bench).1) :: (bench.after turn.move).play rest

namespace AnySequence

variable {σ : Type}

def On (engine : Engine σ) : AnySequence σ → Prop
  | .answers q => q.On engine
  | .rows q => q.On engine

def footprint : AnySequence σ → Footprint
  | .answers q => q.footprint
  | .rows q => q.footprint

end AnySequence

/-- A sequence with what its thread sees in place of the thread. -/
inductive SequenceView (Seen : Type) where
  | answers (view : AnswerView Seen)
  | rows (view : RowView Seen)

namespace Sight

variable {σ : Type} {v : Sight σ} {engine : Engine σ} {bench : Workbench σ}

/-- What there is of a sequence in a world. -/
def sequenceView (v : Sight σ) (w : World σ) : AnySequence σ → SequenceView v.Seen
  | .answers q => .answers (v.view w.backend q)
  | .rows q => .rows (v.rowView w q)

/-- A turn, from what the thread of the sequence sees. -/
def turn (v : Sight σ) : Request → SequenceView v.Seen →
    Except Failure Outcome × SequenceView v.Seen
  | .next, .answers view => (Workbench.pulled .bindings (v.next view).1, .answers (v.next view).2)
  | .next, .rows view => (Workbench.pulled .row (v.nextRow view).1, .rows (v.nextRow view).2)
  | .abandon, .answers _ => (.ok .nothing, .answers .finished)
  | .abandon, .rows _ => (.ok .nothing, .rows .finished)

/-- What a sequence observes alone. -/
def alone (v : Sight σ) : SequenceView v.Seen → List Request → List (Except Failure Outcome)
  | _, [] => []
  | view, request :: rest => (v.turn request view).1 :: v.alone (v.turn request view).2 rest

theorem sequenceView_congr {w w' : World σ} {q : AnySequence σ}
    (same : ∀ r ∈ q.footprint.reads, v.Same w w' r) : v.sequenceView w' q = v.sequenceView w q := by
  cases q with
  | answers q => exact congrArg SequenceView.answers (view_congr same)
  | rows q => exact congrArg SequenceView.rows (rowView_congr same)

/-- **A turn gives what the thread of its sequence alone decides.** -/
theorem turn_follows (separates : engine.Separates v) (turn : Turn)
    (on : (bench.sequences.get turn.sequence).On engine)
    (held : v.Holds bench.world (bench.sequences.get turn.sequence).footprint) :
    let view := v.sequenceView bench.world (bench.sequences.get turn.sequence)
    ∃ q' w', (Workbench.perform turn.move).result bench = ((v.turn turn.request view).1,
        { bench with world := w', sequences := bench.sequences.set turn.sequence q' }) ∧
      q'.On engine ∧ v.sequenceView w' q' = (v.turn turn.request view).2 ∧
      v.Step bench.world (bench.sequences.get turn.sequence).footprint w' q'.footprint := by
  obtain ⟨n, request⟩ := turn
  cases found : bench.sequences.get n with
  | answers q =>
      rw [found] at on held
      cases request with
      | next =>
          obtain ⟨q', s', stepped, on', shows, step⟩ := next_follows separates on held
          refine ⟨.answers q', _, ?_, on', congrArg SequenceView.answers shows, step⟩
          rw [Turn.move, Workbench.next_answers_result found, stepped]
          rfl
      | abandon =>
          exact ⟨.answers .finished, bench.world, Workbench.abandon_answers_result found,
            fun _ => nofun, rfl, .of_subset (Footprint.empty_subset _)⟩
  | rows q =>
      rw [found] at on held
      cases request with
      | next =>
          obtain ⟨q', w', stepped, on', shows, step⟩ := nextRow_follows separates on held
          refine ⟨.rows q', w', ?_, on', congrArg SequenceView.rows shows, step⟩
          rw [Turn.move, Workbench.next_rows_result found, stepped]
          rfl
      | abandon =>
          obtain ⟨w', given, step⟩ := abandon_step separates on held
          refine ⟨.rows .finished, w', ?_, trivial, rfl, step⟩
          rw [Turn.move, Workbench.abandon_rows_result found, given]
          rfl

end Sight

namespace Workbench

variable {σ : Type} {v : Sight σ} {engine : Engine σ} {bench : Workbench σ}

/-- The view of a sequence. -/
def viewOf (bench : Workbench σ) (v : Sight σ) (i : Nat) : SequenceView v.Seen :=
  v.sequenceView bench.world (bench.sequences.get i)

/-- The sequences are those of an engine, and none changes what another relies on. -/
structure Peaceful (engine : Engine σ) (v : Sight σ) (bench : Workbench σ) : Prop where
  on : ∀ i, (bench.sequences.get i).On engine
  held : ∀ i, v.Holds bench.world (bench.sequences.get i).footprint
  spares : ∀ {i j}, i ≠ j →
    v.Spares bench.world (bench.sequences.get i).footprint (bench.sequences.get j).footprint

namespace Peaceful

/-- A step of one sequence leaves all of them out of each other's way. -/
theorem set (separates : engine.Separates v) (peaceful : Peaceful engine v bench) {i : Nat}
    {q' : AnySequence σ} {w' : World σ} (on : q'.On engine)
    (step : v.Step bench.world (bench.sequences.get i).footprint w' q'.footprint) :
    Peaceful engine v { bench with world := w', sequences := bench.sequences.set i q' } where
  on j := by
    by_cases mover : j = i
    · rw [mover, Numbered.get_set_self]
      exact on
    · rw [Numbered.get_set, if_neg mover]
      exact peaceful.on j
  held j := by
    by_cases mover : j = i
    · rw [mover, Numbered.get_set_self]
      exact step.holds (peaceful.held i)
    · rw [Numbered.get_set, if_neg mover]
      exact fun r mine => step.knows (peaceful.held j r mine)
  spares {j k} apart := by
    by_cases first : j = i
    · subst first
      rw [Numbered.get_set_self, Numbered.get_set, if_neg apart.symm]
      exact step.spares_mover separates.settled (peaceful.held k) (peaceful.spares apart)
    · rw [Numbered.get_set, if_neg first]
      by_cases second : k = i
      · subst second
        rw [Numbered.get_set_self]
        exact step.spares_idle (peaceful.held k) (peaceful.held j) (peaceful.spares apart)
      · rw [Numbered.get_set, if_neg second]
        exact step.spares_others (peaceful.held k) (peaceful.spares apart)

/-- A turn moves the view of its sequence and no other. -/
theorem after_turn (separates : engine.Separates v) (peaceful : Peaceful engine v bench)
    (turn : Turn) :
    ((perform turn.move).result bench).1 =
        (v.turn turn.request (bench.viewOf v turn.sequence)).1 ∧
      (bench.after turn.move).viewOf v turn.sequence =
        (v.turn turn.request (bench.viewOf v turn.sequence)).2 ∧
      (∀ j, j ≠ turn.sequence → (bench.after turn.move).viewOf v j = bench.viewOf v j) ∧
      Peaceful engine v (bench.after turn.move) := by
  obtain ⟨q', w', performed, on, shows, step⟩ :=
    Sight.turn_follows separates turn (peaceful.on _) (peaceful.held _)
  rw [after, performed]
  refine ⟨rfl, ?_, fun j other => ?_, peaceful.set separates on step⟩
  · rw [viewOf, Numbered.get_set_self]
    exact shows
  · rw [viewOf, Numbered.get_set, if_neg other]
    exact Sight.sequenceView_congr
      (step.same_of_spares (peaceful.held j) (peaceful.spares other.symm))

/-- **Whatever the others do, a sequence observes what its view gives alone.** -/
theorem play_filter (separates : engine.Separates v) (peaceful : Peaceful engine v bench)
    (turns : List Turn) (i : Nat) :
    (bench.play turns).filter (·.1 = i) =
      (v.alone (bench.viewOf v i)
        ((turns.filter (·.sequence = i)).map Turn.request)).map (i, ·) := by
  induction turns generalizing bench with
  | nil => rfl
  | cons turn rest ih =>
      obtain ⟨gives, moved, others, after⟩ := peaceful.after_turn separates turn
      rw [play]
      by_cases own : turn.sequence = i
      · subst own
        rw [List.filter_cons_of_pos (by simp), List.filter_cons_of_pos (by simp), ih after, gives,
          moved]
        rfl
      · rw [List.filter_cons_of_neg (by simpa using own),
          List.filter_cons_of_neg (by simpa using own), ih after,
          others i fun same => own same.symm]

end Peaceful

/-! ## Sequences that have just been made -/

/-- A sequence that has not been asked for anything: the answers of a query on a thread, or the
rows of a query that is to run in a session of its own or in one that is given. -/
inductive Made (engine : Engine σ) (v : Sight σ) (w : World σ) : AnySequence σ → Prop
  | answers {n : Nat} (query : String) (known : v.known w.backend (.thread n)) :
    Made engine v w (.answers (.fresh ⟨engine, n⟩ query))
  | ownSession {policy : Policy σ} (query : String) (context : QueryText.Context)
    (of : ∀ e, policy.engine = .ok e → e = engine) :
    Made engine v w (.rows (.ofQuery policy query context none))
  | givenSession {session : Session σ} (policy : Policy σ) (query : String)
    (context : QueryText.Context) (of : session.engine = engine)
    (known : v.known w.backend (.session session.inEngine))
    (numbered : session.number < w.closed.size) :
    Made engine v w (.rows (.ofQuery policy query context (some session)))
  | unused : Made engine v w (.answers .finished)

namespace Made

variable {w : World σ} {q : AnySequence σ}

theorem on (made : Made engine v w q) : q.On engine := by
  cases made with
  | answers query known => exact fun t has => by cases has; rfl
  | ownSession query context of => exact of
  | givenSession policy query context of known numbered => exact of
  | unused => exact fun _ => nofun

theorem held (made : Made engine v w q) : v.Holds w q.footprint := by
  cases made with
  | answers query known =>
      rintro r (_ | ⟨_, _ | ⟨_, ⟨⟩⟩⟩) <;> exact known
  | ownSession query context of => exact fun _ => nofun
  | givenSession policy query context of known numbered =>
      rintro r (_ | ⟨_, _ | ⟨_, ⟨⟩⟩⟩)
      · exact known
      · exact numbered
  | unused => exact fun _ => nofun

/-- Only the answers of a thread have something of their own, and that is the thread. -/
theorem of_owns (made : Made engine v w q) {r : Resource} (own : r ∈ q.footprint.owns) :
    ∃ n query, q = .answers (.fresh ⟨engine, n⟩ query) ∧ r = .part (.thread n) := by
  cases made with
  | answers query known => exact ⟨_, query, rfl, List.mem_singleton.mp own⟩
  | ownSession query context of => exact absurd own List.not_mem_nil
  | givenSession policy query context of known numbered => exact absurd own List.not_mem_nil
  | unused => exact absurd own List.not_mem_nil

theorem of_writes (made : Made engine v w q) {r : Resource} (writes : v.Writes w q.footprint r) :
    ∃ n query, q = .answers (.fresh ⟨engine, n⟩ query) ∧ r = .part (.thread n) := by
  rcases writes with own | ⟨_, _, _, _, own⟩
  · exact made.of_owns own
  · obtain ⟨_, _, _, ⟨⟩⟩ := made.of_owns own

theorem of_reads (made : Made engine v w q) {n : Nat}
    (reads : .part (.thread n) ∈ q.footprint.reads) :
    ∃ query, q = .answers (.fresh ⟨engine, n⟩ query) := by
  cases made with
  | answers query known =>
      cases List.mem_singleton.mp reads
      exact ⟨query, rfl⟩
  | ownSession query context of => exact absurd reads List.not_mem_nil
  | givenSession policy query context of known numbered =>
      rcases List.mem_cons.mp reads with same | flag
      · cases same
      · cases List.mem_singleton.mp flag
  | unused => exact absurd reads List.not_mem_nil

end Made

/-- Sequences that have just been made, each of answers on a thread of its own. -/
structure Ready (engine : Engine σ) (v : Sight σ) (bench : Workbench σ) : Prop where
  made : ∀ i, Made engine v bench.world (bench.sequences.get i)
  own : ∀ {i j n query query'}, bench.sequences.get i = .answers (.fresh ⟨engine, n⟩ query) →
    bench.sequences.get j = .answers (.fresh ⟨engine, n⟩ query') → i = j

theorem Ready.peaceful (ready : Ready engine v bench) : Peaceful engine v bench where
  on i := (ready.made i).on
  held i := (ready.made i).held
  spares {i j} apart r reads writes := by
    obtain ⟨n, query, mine, rfl⟩ := (ready.made i).of_writes writes
    obtain ⟨query', others⟩ := (ready.made j).of_reads reads
    exact apart (ready.own mine others)

theorem play_map_fst (bench : Workbench σ) (turns : List Turn) :
    (bench.play turns).map (·.1) = turns.map Turn.sequence := by
  induction turns generalizing bench with
  | nil => rfl
  | cons turn rest ih => rw [play, List.map_cons, ih, List.map_cons]

/-- The turns of one sequence show nothing but what that one observes. -/
theorem filter_play_filter (bench : Workbench σ) (turns : List Turn) (i : Nat) :
    (bench.play (turns.filter (·.sequence = i))).filter (·.1 = i) =
      bench.play (turns.filter (·.sequence = i)) := by
  rw [List.filter_eq_self]
  intro observed among
  have numbered : observed.1 ∈ (turns.filter (·.sequence = i)).map Turn.sequence := by
    rw [← play_map_fst bench]
    exact List.mem_map_of_mem among
  obtain ⟨turn, kept, same⟩ := List.mem_map.mp numbered
  rw [← same]
  exact (List.mem_filter.mp kept).2

/-- **Threads do not interfere.** Take sequences that have just been made, each with a thread of
its own or with one that it gets, on an engine that separates its threads. However the turns of the
sequences alternate, every sequence observes what it observes if it alone has its turns. -/
theorem play_filter_eq_play (separates : engine.Separates v) (ready : Ready engine v bench)
    (turns : List Turn) (i : Nat) :
    (bench.play turns).filter (·.1 = i) = bench.play (turns.filter (·.sequence = i)) := by
  rw [← filter_play_filter, ready.peaceful.play_filter separates,
    ready.peaceful.play_filter separates, List.filter_filter]
  simp only [Bool.and_self]

/-- Answers to one query, and a second query that throws after its first answer. -/
def crowdScript : Script where
  answers :=
    [("p(X).", [{ first := some (.bindings [("X", .compound "a" [])]) },
        { first := some (.bindings [("X", .compound "b" [])]) }]),
      ("q(X).", [{ first := some (.bindings [("X", .compound "a" [])]) },
        { first := some (.thrown (.compound "b" [])) }])]

def crowdPolicy : Policy Scripted.State :=
  ⟨⟨[], ⟨[], "scripted"⟩, []⟩, "", .ok (Scripted.engine crowdScript)⟩

/-- Two threads of a session with a query each, a query in a session of its own, and one in the
session of the two. -/
def crowd : Workbench Scripted.State :=
  (initial .initial).run [.start (.ok (Scripted.engine crowdScript)), .createThread 0,
    .makeQuery 0 "p(X).", .makeQuery 1 "q(X).", .query crowdPolicy "p(X)" [] none,
    .query crowdPolicy "q(X)" [] (some 0)]

/-- The sequences in the order in which they are made. -/
def crowdSequence : Nat → AnySequence Scripted.State
  | 0 => .answers (.fresh ⟨Scripted.engine crowdScript, 0⟩ "p(X).")
  | 1 => .answers (.fresh ⟨Scripted.engine crowdScript, 1⟩ "q(X).")
  | 2 => .rows (.ofQuery crowdPolicy "p(X)" [] none)
  | 3 => .rows (.ofQuery crowdPolicy "q(X)" []
      (some ⟨Scripted.engine crowdScript, 0, 0, ⟨Scripted.engine crowdScript, 0⟩⟩))
  | _ => .answers .finished

theorem get_crowd (i : Nat) : crowd.sequences.get i = crowdSequence i := by
  have inOrder : crowd.sequences =
      ((((Numbered.empty (.answers .finished)).add (crowdSequence 0)).add (crowdSequence 1)).add
        (crowdSequence 2)).add (crowdSequence 3) := rfl
  match i with
  | 0 | 1 | 2 | 3 => rfl
  | i + 4 =>
      rw [inOrder]
      simp [Numbered.get_add, Numbered.empty, crowdSequence]

theorem ready_crowd :
    Ready (Scripted.engine crowdScript) (Scripted.sight crowdScript) crowd where
  made i := by
    rw [get_crowd]
    match i with
    | 0 => exact .answers _ (by decide : 0 < 2)
    | 1 => exact .answers _ (by decide : 1 < 2)
    | 2 => exact .ownSession _ _ fun e of => (Except.ok.inj of).symm
    | 3 => exact .givenSession _ _ _ rfl (by decide : 0 < 1) (by decide : 0 < 1)
    | i + 4 => exact .unused
  own {i j n query query'} := by
    rw [get_crowd, get_crowd]
    match i, j with
    | 0, 0 | 1, 1 => exact fun _ _ => rfl
    | 0, 1 | 1, 0 => rintro ⟨⟩ ⟨⟩
    | 2, _ | 3, _ | i + 4, _ => exact nofun
    | 0, 2 | 0, 3 | 0, j + 4 | 1, 2 | 1, 3 | 1, j + 4 => exact fun _ => nofun

def crowdTurns : List Turn :=
  [⟨2, .next⟩, ⟨0, .next⟩, ⟨3, .next⟩, ⟨1, .next⟩, ⟨2, .next⟩, ⟨0, .abandon⟩, ⟨1, .next⟩,
    ⟨3, .abandon⟩, ⟨2, .next⟩, ⟨1, .next⟩]

/-- The second thread sees its query throw, whatever becomes of the others. -/
theorem play_filter_eq_play_crowd :
    (Scripted.engine crowdScript).Separates (Scripted.sight crowdScript) ∧
      Ready (Scripted.engine crowdScript) (Scripted.sight crowdScript) crowd ∧
      (crowd.play crowdTurns).filter (·.1 = 1) = crowd.play (crowdTurns.filter (·.sequence = 1)) ∧
      crowd.play (crowdTurns.filter (·.sequence = 1)) =
        [(1, .ok (.bindings [("X", .compound "a" [])])),
          (1, .error (.logic (LogicError.ofTerm (.compound "b" [])))), (1, .ok .finished)] :=
  have separates := Scripted.separates fun _ => rfl
  ⟨separates, ready_crowd, play_filter_eq_play separates ready_crowd crowdTurns 1, rfl⟩

end Workbench

end WorkspacePolicy
