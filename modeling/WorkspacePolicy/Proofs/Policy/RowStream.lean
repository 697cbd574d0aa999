/-
# Proofs.Policy.RowStream — rows are the answers of their query, one by one

The rows of a query follow the answers of its thread: where the values of an answer have texts,
its row holds them in their order, without the variable `_` (`Row.Of`). So a sequence of rows
yields a row for every answer before the first term that is thrown, and then fails with its error
or ends, at the same step as its answers (`yields_running`, `yields_ofQuery`).

This holds in a session of its own whose program is accepted and in an open session that the
sequence is given (`Grants`); either way its thread is new.
-/
import Mathlib.Data.List.Forall2
import WorkspacePolicy.Proofs.Policy.Evaluation
import WorkspacePolicy.Proofs.Policy.Rows
import WorkspacePolicy.Proofs.Session.Stream

namespace WorkspacePolicy

set_option autoImplicit false

/-! ## Rows -/

theorem forall₂_of_mapM {ε α β : Type} {judge : α → Except ε β} {items : List α} {values : List β}
    (given : items.mapM judge = .ok values) :
    List.Forall₂ (fun a v => judge a = .ok v) items values := by
  induction items generalizing values with
  | nil =>
      obtain rfl := Except.ok.inj given
      exact .nil
  | cons item rest ih =>
      obtain ⟨first, others, judged, more, rfl⟩ := mapM_cons_eq_ok given
      exact .cons judged (ih more)

theorem exists_linkText_of_isWritable {t : Term} (writable : t.isWritable) :
    ∃ text, t.linkText = .ok text := by
  unfold Term.linkText
  split
  · exact ⟨_, rfl⟩
  · simp only [writable, Bool.not_true, Bool.false_eq_true, if_false]
    split <;> exact ⟨_, rfl⟩

/-- The row holds the values of the variables as texts, and leaves out the variable `_`. -/
def Row.Of (links : Bindings) (row : Row) : Prop :=
  List.Forall₂ (fun link cell => cell.1 = link.1 ∧ link.2.linkText = .ok cell.2)
    (links.filter (·.1 != "_")) row

/-- The values that a row shows have texts. -/
def Bindings.Showable (links : Bindings) : Prop :=
  ∀ link ∈ links, link.1 ≠ "_" → link.2.isWritable

namespace Row

theorem cell_eq_ok {link : String × Term} {cell : String × Option String}
    (given : Row.cell link = .ok cell) : cell.1 = link.1 ∧ link.2.linkText = .ok cell.2 := by
  unfold Row.cell at given
  cases shown : link.2.linkText with
  | error fault => rw [shown] at given; cases given
  | ok text =>
      rw [shown] at given
      obtain rfl := Except.ok.inj given
      exact ⟨rfl, rfl⟩

theorem exists_ofBindings {links : Bindings} (showable : Bindings.Showable links) :
    ∃ row, ofBindings links = .ok row ∧ Row.Of links row := by
  have pass : ∀ link ∈ links.filter (·.1 != "_"), Passes Row.cell link := by
    intro link member
    obtain ⟨member, named⟩ := List.mem_filter.mp member
    have writable := showable link member (by simpa using named)
    obtain ⟨text, shown⟩ := exists_linkText_of_isWritable writable
    exact ⟨(link.1, text), by rw [Row.cell, shown]⟩
  obtain ⟨row, given⟩ := exists_mapM_of_passes pass
  exact ⟨row, given, (forall₂_of_mapM given).imp fun _ _ => cell_eq_ok⟩

theorem exists_rows {items : List Bindings} (showable : ∀ links ∈ items, Bindings.Showable links) :
    ∃ rows, List.Forall₂ Row.Of items rows ∧
      List.Forall₂ (fun links row => ofBindings links = .ok row) items rows := by
  induction items with
  | nil => exact ⟨[], .nil, .nil⟩
  | cons links items ih =>
      obtain ⟨first, others⟩ := List.forall_mem_cons.mp showable
      obtain ⟨row, given, of⟩ := exists_ofBindings first
      obtain ⟨rows, ofs, givens⟩ := ih others
      exact ⟨row :: rows, .cons of ofs, .cons given givens⟩

end Row

namespace RowSequence

variable {σ : Type} {owned : Option (Session σ)}

theorem rests_finished : Pull.Rests next (.finished : RowSequence σ) := fun _ => rfl

/-- The session of the sequence can be released, whatever its engine has done. -/
def Releases (owned : Option (Session σ)) (w : World σ) : Prop :=
  ∀ s, ∃ w', (release owned).result { w with backend := s } = (.ok (), w')

theorem finish_of_releases {w : World σ} (releases : Releases owned w) (last : Pull Row) (s : σ) :
    ∃ w', (finish owned last).run { w with backend := s } = ((last, .finished), w') := by
  obtain ⟨w', released⟩ := releases s
  exact ⟨w', by rw [finish_run, released]⟩

/-- An item of the rows is one of the answers. -/
theorem ask_item {answers answers' : AnswerSequence σ} {pull : Pull Bindings} {s' : σ}
    {w w' : World σ} {q' : RowSequence σ} {row : Row}
    (stepped : answers.next.run w.backend = ((pull, answers'), s'))
    (asked : (ask owned answers).run w = ((.item row, q'), w')) :
    (∃ links, pull = .item links) ∧ q' = .running owned answers' ∧
      w' = { w with backend := s' } := by
  rw [ask_run owned stepped] at asked
  cases converted : pull.convert Row.ofBindings with
  | item _ =>
      rw [converted] at asked
      cases asked
      cases pull with
      | item links => exact ⟨⟨links, rfl⟩, rfl, rfl⟩
      | done | failed => cases converted
  | done | failed =>
      simp only [converted, finish_run] at asked
      rcases released : (release owned).result { w with backend := s' } with ⟨_ | _, _⟩ <;>
        rw [released] at asked <;> cases asked

/-- Rows follow the answers that their sequence still has. -/
theorem yields_running {answers : AnswerSequence σ} {s : σ} {d : Drained Bindings}
    (yields : Pull.Yields AnswerSequence.next answers s d) {rows : List Row}
    (given : List.Forall₂ (fun links row => Row.ofBindings links = .ok row) d.items rows)
    {w : World σ} (here : w.backend = s) (releases : Releases owned w) :
    Pull.Yields next (.running owned answers) w ⟨rows, d.failure⟩ := by
  induction yields generalizing rows w with
  | item step later ih =>
      subst here
      obtain ⟨row, rest, converted, others, rfl⟩ := List.forall₂_cons_left_iff.mp given
      have stepped := ask_run owned step
      simp only [Pull.convert, converted] at stepped
      exact .item (d := ⟨rest, _⟩) stepped (ih others rfl releases)
  | done step _ =>
      subst here
      obtain rfl := List.forall₂_nil_left_iff.mp given
      obtain ⟨w', finishes⟩ := finish_of_releases releases .done _
      exact .done ((ask_run owned step).trans finishes) rests_finished
  | failed step _ =>
      subst here
      obtain rfl := List.forall₂_nil_left_iff.mp given
      obtain ⟨w', finishes⟩ := finish_of_releases releases (.failed _) _
      exact .failed ((ask_run owned step).trans finishes) rests_finished

end RowSequence

/-! ## On an engine that plays a script -/

namespace RowSequence

open Scripted

variable {script : Script} {w : World State} {policy : Policy State}
  {session : Option (Session State)}

/-- A sequence gets a thread: in a session of its own whose texts are accepted, or in a session
that is open. -/
inductive Grants (script : Script) (w : World State) (policy : Policy State) :
    Option (Session State) → Prop
  | own (of : policy.engine = .ok (Scripted.engine script))
      (accepted : ∀ i < 3, (script.consultAt (w.backend.consulted + i)).first = .accepted) :
      Grants script w policy none
  | given {session : Session State} (of : session.engine = Scripted.engine script)
      (isOpen : session.isClosed w = false) : Grants script w policy (some session)

theorem createSession_of_accepted (of : policy.engine = .ok (Scripted.engine script))
    (accepted : ∀ i < 3, (script.consultAt (w.backend.consulted + i)).first = .accepted) :
    policy.createSession.result w = (.ok (Session.inWorld script w),
      ⟨w.backend.opened.consults w.backend.pending.size (policy.texts script),
        w.closed.add false⟩) := by
  have consulted : (forM [policy.project.linkage, (Session.inWorld script w).engine.supportLibrary,
      policy.fullSource] (Session.inWorld script w).main.consult).result w.backend.opened =
        (.ok ⟨⟩, w.backend.opened.consults w.backend.pending.size (policy.texts script)) :=
    consults_accepted accepted
  unfold Policy.createSession
  simp only [of]
  rw [Action.result_bind_ok _ Session.start_result, Action.result_bind, Session.init,
    Action.result_onFailure, World.result_onBackend, Session.consultAll_eq_forM, consulted]
  rfl

theorem releases_none (w : World State) : Releases (none : Option (Session State)) w :=
  fun _ => ⟨_, rfl⟩

theorem releases_some {session : Session State} (of : session.engine = Scripted.engine script)
    (isOpen : session.isClosed w = false) : Releases (some session) w :=
  fun s => ⟨_, Session.close_result (w := { w with backend := s }) isOpen of⟩

/-- The thread that a sequence gets is new, and its session can be released. -/
theorem openThread_of_grants (grants : Grants script w policy session) :
    ∃ owned n w', (openThread policy session).result w = (.ok (owned, thread script n), w') ∧
      w'.backend.pending.get n = [] ∧ Releases owned w' := by
  cases grants with
  | own of accepted =>
      refine ⟨some (Session.inWorld script w), w.backend.pending.size,
        ⟨w.backend.opened.consults w.backend.pending.size (policy.texts script),
          w.closed.add false⟩, ?_, w.backend.get_pending_opened,
        releases_some rfl (Numbered.get_add_size w.closed false)⟩
      rw [openThread, Action.result_bind_ok _ (createSession_of_accepted of accepted)]
      rfl
  | @given session of isOpen =>
      refine ⟨none, w.backend.pending.size,
        { w with backend := ((createThread).result w.backend).2 }, ?_,
        Numbered.get_add_size w.backend.pending [], releases_none _⟩
      rw [openThread, Action.result_bind, Session.createThread_eq, isOpen, of]
      rfl

/-- What the thread of a sequence hears for a query; it is new. -/
def heardFor (script : Script) (query : String) : Drained Bindings :=
  Answer.course (heard (script.pendingFor query []))

section

variable {query : String} {context : QueryText.Context} {rows : List Row}

/-- The first step of a sequence is one on a new thread. -/
theorem next_ofQuery (grants : Grants script w policy session) (query : String)
    (context : QueryText.Context) :
    ∃ owned n w', (next (ofQuery policy query context session)).run w =
        (next (.running owned (.fresh (thread script n) (QueryText.text query context)))).run w' ∧
      w'.backend.pending.get n = [] ∧ Releases owned w' := by
  obtain ⟨owned, n, w', opened, new, releases⟩ := openThread_of_grants grants
  refine ⟨owned, n, w', ?_, new, releases⟩
  rw [ofQuery, next_fresh_run, opened]
  rfl

/-- **The rows of a query are the answers before the first term that is thrown**, and they end or
fail as the answers do. -/
theorem yields_ofQuery (grants : Grants script w policy session)
    (accepted : script.acknowledgement (QueryText.text query context) = .accepted)
    (given : List.Forall₂ (fun links row => Row.ofBindings links = .ok row)
      (heardFor script (QueryText.text query context)).items rows) :
    Pull.Yields next (ofQuery policy query context session) w
      ⟨rows, (heardFor script (QueryText.text query context)).failure⟩ := by
  obtain ⟨owned, n, w', same, new, releases⟩ := next_ofQuery grants query context
  have answers := yields_fresh (n := n) (s := w'.backend) accepted
  rw [new] at answers
  exact (yields_running answers given rfl releases).of_same_step same

theorem drain_ofQuery (grants : Grants script w policy session)
    (accepted : script.acknowledgement (QueryText.text query context) = .accepted)
    (given : List.Forall₂ (fun links row => Row.ofBindings links = .ok row)
      (heardFor script (QueryText.text query context)).items rows) :
    ((ofQuery policy query context session).drain.run w).1.1 =
      ⟨rows, (heardFor script (QueryText.text query context)).failure⟩ := by
  refine Pull.drainAll_of_yields (yields_ofQuery grants accepted given) fun row q' w'' step => ?_
  obtain ⟨owned, n, w', same, new, releases⟩ := next_ofQuery grants query context
  rw [same] at step
  rcases stepped : (AnswerSequence.fresh (thread script n) (QueryText.text query context)).next.run
    w'.backend with ⟨⟨pull, answers⟩, s'⟩
  obtain ⟨⟨links, rfl⟩, rfl, rfl⟩ := ask_item stepped step
  have bound := length_le_remaining accepted stepped
  rw [new] at bound
  rwa [← given.length_eq]

end

end RowSequence

/-! ## The stream of a query -/

namespace Scripted

open RowSequence

/-- A query on a thread gives its stream lazily: a drain finds all of it, every step one item of
it, and the engine gets the query with the first step and a request for each step up to the last
one. -/
structure StreamsTo (script : Script) (n : Nat) (query : String) (s : State)
    (stream : Drained Bindings) : Prop where
  drain : ((AnswerSequence.fresh (thread script n) query).drain.run s).1.1 = stream
  steps : ∀ k, ((Pull.steps AnswerSequence.next k (.fresh (thread script n) query)).run s).1.1 =
    stream.pulls k
  trace : ∀ k, ((Pull.steps AnswerSequence.next k (.fresh (thread script n) query)).run s).2.trace =
    s.trace ++ callsOf n query stream.items.length k

/-- The rows of a query hold what the stream holds, item for item, and end or fail where it does. -/
structure ShowsRows (q : RowSequence State) (w : World State) (stream : Drained Bindings)
    (rows : List Row) : Prop where
  shown : List.Forall₂ Row.Of stream.items rows
  drain : (q.drain.run w).1.1 = ⟨rows, stream.failure⟩
  steps : ∀ k, ((Pull.steps RowSequence.next k q).run w).1.1 =
    (⟨rows, stream.failure⟩ : Drained Row).pulls k

/-- **A query that is accepted gives the bindings before the first term that is thrown**, one for
each step, and then the error of that term or the end; and so do its rows. -/
theorem query_streamsTo {script : Script} {query : String}
    (accepted : script.acknowledgement query = .accepted) :
    (∀ n s, StreamsTo script n query s
      (Answer.course (heard (script.pendingFor query (s.pending.get n))))) ∧
    ∀ policy source context session w, QueryText.text source context = query →
      Grants script w policy session →
      (∀ links ∈ (heardFor script query).items, Bindings.Showable links) →
      ∃ rows, ShowsRows (ofQuery policy source context session) w (heardFor script query) rows := by
  constructor
  · intro n s
    exact ⟨drain_fresh accepted, Pull.steps_of_yields (yields_fresh accepted),
      trace_steps accepted⟩
  · rintro policy source context session w rfl grants showable
    obtain ⟨rows, shown, given⟩ := Row.exists_rows showable
    exact ⟨rows, shown, drain_ofQuery grants accepted given,
      Pull.steps_of_yields (yields_ofQuery grants accepted given)⟩

/-- An answer that is given twice, then a term that is thrown before a last answer. -/
def stutter : Script where
  answers := [("p(X).", [
    { first := some (.bindings [("X", .atom "a"), ("_", .number (.int 1))]), repeats := [none] },
    { first := some (.thrown (.atom "oops")) },
    { first := some (.bindings []) }])]

/-- What there is before the term that is thrown. -/
def stutterStream : Drained Bindings :=
  ⟨[[("X", .atom "a"), ("_", .number (.int 1))]], some (.logic (LogicError.ofTerm (.atom "oops")))⟩

theorem query_streamsTo_stutter :
    StreamsTo stutter 0 "p(X)." .initial stutterStream ∧
      ∃ rows, ShowsRows (ofQuery (.scripted ⟨[], ⟨[], "swi"⟩, []⟩ "" stutter) "p(X)" [] none)
        (.initial .initial) stutterStream rows := by
  have accepted : stutter.acknowledgement "p(X)." = .accepted := rfl
  have text : QueryText.text "p(X)" [] = "p(X)." := by cbv
  have heard : heardFor stutter "p(X)." = stutterStream := rfl
  have grants : Grants stutter (.initial .initial)
      (.scripted ⟨[], ⟨[], "swi"⟩, []⟩ "" stutter) none := .own rfl fun _ _ => rfl
  have showable : ∀ links ∈ (heardFor stutter "p(X).").items, Bindings.Showable links := by
    rw [heard]
    rintro links member ⟨name, value⟩ bound named
    obtain rfl := List.mem_singleton.mp member
    rcases List.mem_cons.mp bound with same | last
    · cases same
      rfl
    · cases List.mem_singleton.mp last
      exact absurd rfl named
  obtain ⟨streams, rows⟩ := query_streamsTo accepted
  have shown := rows _ _ _ _ _ text grants showable
  rw [heard] at shown
  exact ⟨streams 0 .initial, shown⟩

end Scripted

end WorkspacePolicy
