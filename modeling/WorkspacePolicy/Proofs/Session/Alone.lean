/-
# Proofs.Session.Alone — sequences of answers and what their threads see

On an engine that separates its threads, all that a sequence of answers gives is decided by what
its thread sees: `Sight.next` makes its steps from that alone, and a step in the state of the
whole engine follows them (`next_follows`). It changes nothing but what the thread sees.

The sessions of such an engine are steps of their users: one that is started is new with its main
thread (`start_step`), consulting changes what its own threads see (`consults_follow`), a further
thread is new (`createThread_step`), and closing concerns its own session (`close_step`).
-/
import WorkspacePolicy.Proofs.Session.Footprint
import WorkspacePolicy.Proofs.Session.Steps

namespace WorkspacePolicy

set_option autoImplicit false

/-- A sequence of answers with what its thread sees in place of the thread. -/
inductive AnswerView (Seen : Type) where
  | fresh (seen : Seen) (query : String)
  | running (seen : Seen)
  | finished

namespace AnswerSequence

variable {σ : Type}

/-- The thread is one of an engine. -/
def On (engine : Engine σ) (q : AnswerSequence σ) : Prop :=
  ∀ t, q.thread? = some t → t.engine = engine

/-- The thread of the sequence. -/
def footprint (q : AnswerSequence σ) : Footprint :=
  match q.thread? with
  | some t => .ofThread t.number
  | none => .empty

theorem mem_footprint {q : AnswerSequence σ} {t : Thread σ} (has : q.thread? = some t) :
    .part (.thread t.number) ∈ q.footprint.reads ∧ .part (.thread t.number) ∈ q.footprint.owns := by
  unfold footprint
  rw [has]
  exact ⟨List.mem_cons_self, List.mem_cons_self⟩

/-- A sequence that has no other thread has nothing else. -/
theorem footprint_subset {q q' : AnswerSequence σ}
    (kept : ∀ t, q'.thread? = some t → q.thread? = some t) : q'.footprint ⊆ q.footprint := by
  cases last : q'.thread? with
  | none =>
      simp only [footprint, last]
      exact Footprint.empty_subset _
  | some t =>
      simp only [footprint, last, kept t last]
      exact Footprint.subset_refl _

end AnswerSequence

namespace Sight

variable {σ : Type} {v : Sight σ} {engine : Engine σ} {s : σ} {w : World σ} {n : Nat}

/-- An answer of a thread, from what the thread sees. -/
def ask (v : Sight σ) (seen : v.Seen) : Pull Bindings × AnswerView v.Seen :=
  match (v.answered seen).1.bind Thread.answered with
  | .ok (some links) => (.item links, .running (v.answered seen).2)
  | .ok none => (.done, .finished)
  | .error failure => (.failed failure, .finished)

/-- A step of a sequence, from what its thread sees. -/
def next (v : Sight σ) : AnswerView v.Seen → Pull Bindings × AnswerView v.Seen
  | .fresh seen query =>
    match (v.queried seen query).1.bind Thread.settled with
    | .ok () => v.ask (v.queried seen query).2
    | .error failure => (.failed failure, .finished)
  | .running seen => v.ask seen
  | .finished => (.done, .finished)

/-- What there is of a sequence in a state. -/
def view (v : Sight σ) (s : σ) : AnswerSequence σ → AnswerView v.Seen
  | .fresh t query => .fresh (v.sees s (.thread t.number)) query
  | .running t => .running (v.sees s (.thread t.number))
  | .finished => .finished

/-- The thread of a sequence. -/
def ThreadOf (q : AnswerSequence σ) (p : Part) : Prop :=
  ∃ t, q.thread? = some t ∧ p = .thread t.number

/-! ## Steps of a sequence -/

theorem ask_follows (separates : engine.Separates v) (known : v.known s (.thread n)) :
    ∃ q' s', (AnswerSequence.ask ⟨engine, n⟩).run s =
        (((v.ask (v.sees s (.thread n))).1, q'), s') ∧
      v.view s' q' = (v.ask (v.sees s (.thread n))).2 ∧ v.Keeps (· = .thread n) s s' := by
  obtain ⟨given, s', called, looks, keeps⟩ := separates.answer known
  rw [AnswerSequence.ask_run, Thread.nextAnswer_eq, called]
  unfold ask
  rw [← looks]
  rcases given with failure | ⟨_ | _ | _, _⟩ <;> exact ⟨_, s', rfl, rfl, keeps⟩

theorem startQuery_follows (separates : engine.Separates v) (known : v.known s (.thread n))
    (query : String) :
    ∃ s', (Thread.startQuery ⟨engine, n⟩ query).result s =
        ((v.queried (v.sees s (.thread n)) query).1.bind Thread.settled, s') ∧
      v.sees s' (.thread n) = (v.queried (v.sees s (.thread n)) query).2 ∧
      v.Keeps (· = .thread n) s s' := by
  obtain ⟨given, s', called, looks, keeps⟩ := separates.query query known
  rw [Thread.startQuery_eq, called, ← looks]
  refine ⟨s', ?_, rfl, keeps⟩
  cases given <;> rfl

theorem next_keeps (separates : engine.Separates v) {q : AnswerSequence σ} (on : q.On engine)
    (known : ∀ t, q.thread? = some t → v.known s (.thread t.number)) :
    ∃ q' s', q.next.run s = (((v.next (v.view s q)).1, q'), s') ∧
      v.view s' q' = (v.next (v.view s q)).2 ∧ v.Keeps (ThreadOf q) s s' := by
  cases q with
  | fresh t query =>
      obtain ⟨e, n⟩ := t
      obtain rfl : e = engine := on _ rfl
      have own : ∀ p, p = Part.thread n → ThreadOf (.fresh ⟨e, n⟩ query) p :=
        fun p same => ⟨_, rfl, same⟩
      obtain ⟨s₁, started, looks, keeps⟩ := startQuery_follows separates (known _ rfl) query
      rw [AnswerSequence.next_fresh_eq, started]
      simp only [view, next]
      cases taken : (v.queried (v.sees s (.thread n)) query).1.bind Thread.settled with
      | error failure => exact ⟨_, s₁, rfl, rfl, keeps.mono own⟩
      | ok _ =>
          obtain ⟨q', s', asked, shows, later⟩ := ask_follows separates (keeps.known (known _ rfl))
          rw [looks] at asked shows
          exact ⟨q', s', asked, shows, (keeps.trans later fun _ _ there => there).mono own⟩
  | running t =>
      obtain ⟨e, n⟩ := t
      obtain rfl : e = engine := on _ rfl
      obtain ⟨q', s', asked, shows, keeps⟩ := ask_follows separates (known _ rfl)
      exact ⟨q', s', asked, shows, keeps.mono fun p same => ⟨_, rfl, same⟩⟩
  | finished => exact ⟨.finished, s, rfl, rfl, .refl _ _⟩

/-- **A sequence of answers gives what its thread alone decides.** -/
theorem next_follows (separates : engine.Separates v) {q : AnswerSequence σ} (on : q.On engine)
    (held : v.Holds w q.footprint) :
    ∃ q' s', q.next.run w.backend = (((v.next (v.view w.backend q)).1, q'), s') ∧
      q'.On engine ∧ v.view s' q' = (v.next (v.view w.backend q)).2 ∧
      v.Step w q.footprint { w with backend := s' } q'.footprint := by
  have known : ∀ t, q.thread? = some t → v.known w.backend (.thread t.number) := fun t has =>
    held (.part (.thread t.number)) (List.mem_append_left _ (AnswerSequence.mem_footprint has).1)
  obtain ⟨q', s', stepped, shows, keeps⟩ := next_keeps separates on known
  have kept : ∀ t, q'.thread? = some t → q.thread? = some t := by
    have kept := q.thread?_next w.backend
    rwa [stepped] at kept
  have told : v.Step w q.footprint { w with backend := s' } q.footprint := by
    refine .of_keeps keeps fun p _ change => ?_
    obtain ⟨t, has, rfl⟩ := change
    exact .inl (AnswerSequence.mem_footprint has).2
  exact ⟨q', s', stepped, fun t has => on t (kept t has), shows,
    told.trans separates.settled (.of_subset (AnswerSequence.footprint_subset kept))⟩

/-- A sequence whose thread sees the same is seen the same. -/
theorem view_congr {w w' : World σ} {q : AnswerSequence σ}
    (same : ∀ r ∈ q.footprint.reads, v.Same w w' r) : v.view w'.backend q = v.view w.backend q := by
  cases q with
  | fresh t query =>
      have seen : v.sees w'.backend (.thread t.number) = v.sees w.backend (.thread t.number) :=
        same _ List.mem_cons_self
      rw [view, seen, view]
  | running t =>
      have seen : v.sees w'.backend (.thread t.number) = v.sees w.backend (.thread t.number) :=
        same _ List.mem_cons_self
      rw [view, seen, view]
  | finished => rfl

/-! ## Sessions -/

/-- Texts that are consulted on a thread change what the threads of its session see. -/
theorem consults_follow (separates : engine.Separates v) {k : Nat} (sources : List String)
    (known : v.known s (.thread n)) (home : ∀ {l}, v.belongs s n l → l = k) :
    ∃ s', (forM sources (Thread.consult ⟨engine, n⟩)).result s = (.ok (), s') ∧
      v.sees s' (.thread n) = sources.foldl v.consulted (v.sees s (.thread n)) ∧
      v.Keeps (fun p => p = .thread n ∨ v.Within s k p) s s' := by
  induction sources generalizing s with
  | nil => exact ⟨s, rfl, rfl, .refl _ _⟩
  | cons source rest ih =>
      obtain ⟨given, s₁, called, accepted, looks, keeps⟩ := separates.consult source known
      have first : (Thread.consult ⟨engine, n⟩ source).result s = (.ok (), s₁) := by
        rw [Thread.consult_eq, called]
        exact congrArg (·, s₁) (congrArg Thread.settled accepted)
      have inside : v.Keeps (fun p => p = .thread n ∨ v.Within s k p) s s₁ := by
        refine keeps.mono fun p change => change.imp_right ?_
        rintro ⟨l, member, within⟩
        exact home member ▸ within
      obtain ⟨s', others, last, later⟩ :=
        ih (inside.known known) fun member => home (inside.belongs known member)
      refine ⟨s', ?_, ?_, inside.trans later fun p there change =>
        change.imp_right (inside.within there)⟩
      · rw [List.forM_cons, Action.result_bind_ok _ first, others]
      · rw [last, looks, List.foldl_cons]

section

variable {session : Session σ} {f : Footprint}

/-- A session that is started is new, and so is its main thread. -/
theorem start_step (separates : engine.Separates v) (w : World σ) :
    ∃ session w', (Session.start engine).result w = (.ok session, w') ∧
      session.engine = engine ∧ session.main.engine = engine ∧
      v.sees w'.backend (.thread session.main.number) = v.opened ∧
      (∀ {l}, v.belongs w'.backend session.main.number l → l = session.inEngine) ∧
      v.Step w .empty w' ((Footprint.ofThread session.main.number).add (.ofSession session)) := by
  obtain ⟨s₁, ready, setup⟩ := separates.setup w.backend
  obtain ⟨k, n, s₂, opened, freshSession, sessionKnown, adds⟩ := separates.createSession s₁
  refine ⟨_, _, Session.start_of_opening ready opened, rfl, rfl, adds.sees, adds.belongs, ?_⟩
  have noSession : ¬ v.known w.backend (.session k) := fun there => freshSession (setup.known there)
  refine .of_new (setup.trans adds.keeps fun _ _ change => change) ?_ ?_ ?_
  · intro m below
    exact ⟨Nat.lt_succ_of_lt below, (Numbered.get_add ..).trans (if_neg (Nat.ne_of_lt below))⟩
  · have thread : ¬ v.Knows w (.part (.thread n)) := fun there => adds.new (setup.known there)
    simp only [Footprint.all, Footprint.add, Footprint.ofThread, Footprint.ofSession,
      List.cons_append, List.nil_append, List.append_nil, List.forall_mem_cons]
    exact ⟨⟨thread, adds.known⟩, ⟨thread, adds.known⟩, ⟨noSession, sessionKnown⟩,
      ⟨Nat.lt_irrefl _, Nat.lt_succ_self _⟩, by simp⟩
  · intro m l mine member
    obtain rfl : m = n := by
      simpa [Footprint.add, Footprint.ofThread, Footprint.ofSession] using mine
    exact .inr (adds.belongs member ▸ noSession)

/-- A further thread is new and one of the session that is shared. -/
theorem createThread_step (separates : engine.Separates v) (on : session.engine = engine)
    (held : v.Holds w (.ofShared session)) (isOpen : session.isClosed w = false) :
    ∃ n s', session.createThread.result w = (.ok ⟨engine, n⟩, { w with backend := s' }) ∧
      v.sees s' (.thread n) = v.sees w.backend (.session session.inEngine) ∧
      v.Step w (.ofShared session) { w with backend := s' } (.ofThread n) := by
  subst on
  obtain ⟨n, s', made, adds⟩ := separates.createThread (held _ List.mem_cons_self)
  refine ⟨n, s', ?_, adds.sees, .of_new adds.keeps (fun m below => ⟨below, rfl⟩) ?_ ?_⟩
  · rw [Session.createThread_eq, isOpen, made]
    rfl
  · simp only [Footprint.all, Footprint.ofThread, List.cons_append, List.nil_append,
      List.forall_mem_cons]
    exact ⟨⟨adds.new, adds.known⟩, ⟨adds.new, adds.known⟩, by simp⟩
  · intro m l mine member
    obtain rfl : m = n := by simpa [Footprint.ofThread] using mine
    exact .inl (adds.belongs member ▸ List.mem_cons_self)

/-- Closing a session of one's own succeeds and concerns nothing else. -/
theorem close_step (separates : engine.Separates v) (on : session.engine = engine)
    (known : v.known w.backend (.session session.inEngine))
    (own : (Footprint.ofSession session).owns ⊆ f.owns) :
    ∃ w', session.close.result w = (.ok (), w') ∧ v.Step w f w' f := by
  subst on
  rw [Session.close_eq]
  by_cases closed : session.isClosed w
  · exact ⟨w, if_pos closed, .refl w f⟩
  · rw [if_neg closed]
    obtain ⟨s', told, keeps⟩ := separates.close known
    rw [told]
    have engineTold : v.Step w f { w with backend := s' } f :=
      .of_keeps keeps fun p _ change => .of_within change (own List.mem_cons_self)
    exact ⟨_, rfl, engineTold.trans separates.settled
      (.of_flag true (own (List.mem_cons_of_mem _ List.mem_cons_self)))⟩

end

end Sight

end WorkspacePolicy
