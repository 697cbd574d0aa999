/-
# Proofs.Policy.RowLifetime — a sequence of rows releases what it owns, and nothing else

A sequence of rows without a session creates the one that its engine gives with the first request
for an item, keeps it open between its items and has closed it once, by the reply with which it
finishes (`ClosesOwn`). A sequence in a session that it was given adds one thread to it and closes
nothing (`SparesGiven`). Both hold on any engine and for any requests.

The sequences are played on watched engines, so that the calls are those of the engine. An
invariant of one request (`Own`, `Guest`) gives one of all of them by induction on the requests.
The invariant of a sequence with a session of its own names that session, which no later request
changes, and begins with the first request.
-/
import WorkspacePolicy.Proofs.Policy.RowPlay
import WorkspacePolicy.Proofs.Session.Owned

namespace WorkspacePolicy

set_option autoImplicit false

/-! ## One request -/

namespace RowSequence

open Session

variable {σ : Type} {engine : Engine σ} {w : World (Watched σ)}

/-- Where a sequence stands that has been asked, and what has become of the session that it owns,
if it got one. -/
inductive Own : Option Nat → RowSequence (Watched σ) → World (Watched σ) → Prop
  | running {engine : Engine σ} {session : Session (Watched σ)}
      {answers : AnswerSequence (Watched σ)} {w : World (Watched σ)}
      (only : OnlyOpen engine session w) (on : answers.On engine.watched) :
      Own (some session.inEngine) (.running (some session) answers) w
  | finished {number? : Option Nat} {w : World (Watched σ)} (all : AllClosed number? w) :
      Own number? .finished w

variable {number? : Option Nat}

namespace Own

variable {q : RowSequence (Watched σ)}

theorem created (own : Own number? q w) : w.backend.created = number?.toList := by
  cases own with
  | running only _ => exact only.created
  | finished all => exact all.created

theorem isOpen (own : Own number? q w) (running : q.IsRunning) :
    ∃ number, w.backend.created = [number] ∧ w.backend.closed = [] := by
  cases own with
  | running only _ => exact ⟨_, only.created, only.closed⟩
  | finished => exact running.elim

theorem allClosed (own : Own number? q w) (ended : q = .finished) : AllClosed number? w := by
  cases own with
  | running => cases ended
  | finished all => exact all

end Own

theorem on_of_next {answers answers' : AnswerSequence (Watched σ)} {pull : Pull Bindings}
    {s s' : Watched σ} (on : answers.On engine.watched)
    (stepped : answers.next.run s = ((pull, answers'), s')) :
    answers'.On engine.watched ∧ s.SameSessions s' := by
  have kept := answers.thread?_next s
  have same := AnswerSequence.next_sameSessions (s := s) on
  rw [stepped] at kept same
  exact ⟨fun t has => on t (kept t has), same⟩

theorem own_of_ask {session : Session (Watched σ)} {answers : AnswerSequence (Watched σ)}
    (only : OnlyOpen engine session w) (on : answers.On engine.watched) :
    Own (some session.inEngine) ((ask (some session) answers).run w).1.2
      ((ask (some session) answers).run w).2 := by
  rcases stepped : answers.next.run w.backend with ⟨⟨pull, answers'⟩, s'⟩
  obtain ⟨on', same⟩ := on_of_next on stepped
  rcases ask_cases (some session) w stepped with ⟨row, asked⟩ | ⟨last, -, asked⟩ <;> rw [asked]
  · exact .running (only.after_work same) on'
  · exact .finished (allClosed_of_close (only.after_work same))

/-- The first request for an item gets the session that the engine gives. -/
theorem own_of_first (policy : Policy σ) (query : String) (noneYet : NoneYet w) :
    let q : RowSequence (Watched σ) := .fresh policy.watched query none
    Own (policy.session? w.backend.state) ((q.perform .next).run w).1.2
      ((q.perform .next).run w).2 := by
  have created := policy.createSession_watched noneYet
  dsimp only
  rw [perform_next_run, next_fresh_run, openThread, Action.result_bind]
  rcases creates : policy.watched.createSession.result w with ⟨_ | session, w'⟩ <;>
    rw [creates] at created
  · exact .finished created
  · obtain ⟨given, engine, only, onMain⟩ := created
    rw [given]
    exact own_of_ask only fun t has => by cases has; exact onMain

theorem own_of_perform {q : RowSequence (Watched σ)} {w : World (Watched σ)} (request : Request)
    (own : Own number? q w) :
    Own number? ((q.perform request).run w).1.2 ((q.perform request).run w).2 := by
  cases request with
  | next =>
      rw [perform_next_run]
      cases own with
      | running only on => exact own_of_ask only on
      | finished all => exact .finished all
  | abandon =>
      rw [perform_abandon_run]
      cases own with
      | running only on => exact .finished (allClosed_of_close only)
      | finished all => exact .finished all

/-- No session was created or closed, and the flags of the sessions are as they were. -/
structure Untouched (flags : Numbered Bool) (w : World (Watched σ)) : Prop where
  noneYet : NoneYet w
  flags : w.closed = flags

/-- Where a sequence in a session that it was given stands, and which threads it has added. -/
inductive Guest (session : Session (Watched σ)) (flags : Numbered Bool) :
    RowSequence (Watched σ) → World (Watched σ) → Prop
  | fresh (policy : Policy (Watched σ)) (query : String) {w : World (Watched σ)}
      (untouched : Untouched flags w) (threaded : w.backend.threaded = []) :
      Guest session flags (.fresh policy query (some session)) w
  | running {engine : Engine σ} {answers : AnswerSequence (Watched σ)} {w : World (Watched σ)}
      (untouched : Untouched flags w) (threaded : w.backend.threaded = [session.inEngine])
      (on : answers.On engine.watched) : Guest session flags (.running none answers) w
  | finished {w : World (Watched σ)} (untouched : Untouched flags w)
      (threaded : w.backend.threaded = [] ∨ w.backend.threaded = [session.inEngine]) :
      Guest session flags .finished w

theorem Untouched.after_work {flags : Numbered Bool} (untouched : Untouched flags w)
    {s : Watched σ} (same : w.backend.SameSessions s) :
    Untouched flags { w with backend := s } :=
  ⟨⟨same.created.trans untouched.noneYet.created, same.closed.trans untouched.noneYet.closed⟩,
    untouched.flags⟩

section

variable {session : Session (Watched σ)} {flags : Numbered Bool}

theorem guest_of_ask {answers : AnswerSequence (Watched σ)} (untouched : Untouched flags w)
    (threaded : w.backend.threaded = [session.inEngine]) (on : answers.On engine.watched) :
    Guest session flags ((ask none answers).run w).1.2 ((ask none answers).run w).2 := by
  rcases stepped : answers.next.run w.backend with ⟨⟨pull, answers'⟩, s'⟩
  obtain ⟨on', same⟩ := on_of_next on stepped
  have kept := untouched.after_work same
  have added := same.threaded.trans threaded
  rcases ask_cases none w stepped with ⟨row, asked⟩ | ⟨last, -, asked⟩ <;> rw [asked]
  · exact .running kept added on'
  · exact .finished kept (.inr added)

theorem guest_of_perform (onEngine : session.engine = engine.watched)
    {q : RowSequence (Watched σ)} {w : World (Watched σ)} (request : Request)
    (guest : Guest session flags q w) :
    Guest session flags ((q.perform request).run w).1.2 ((q.perform request).run w).2 := by
  cases request with
  | next =>
      rw [perform_next_run]
      cases guest with
      | fresh policy query untouched threaded =>
          rw [next_fresh_run, openThread, Action.result_bind, Session.createThread_eq]
          cases session.isClosed w with
          | true => exact .finished untouched (.inl threaded)
          | false =>
              obtain ⟨created, closed, added⟩ :=
                createThread_watched engine w.backend session.inEngine
              rw [threaded, List.nil_append] at added
              simp only [Bool.false_eq_true, if_false, onEngine]
              rcases makes : (engine.watched.createThread session.inEngine).result w.backend with
                ⟨made, s⟩
              rw [makes] at created closed added
              have kept : Untouched flags { w with backend := s } :=
                ⟨⟨created.trans untouched.noneYet.created,
                  closed.trans untouched.noneYet.closed⟩, untouched.flags⟩
              cases made with
              | error failure => exact .finished kept (.inr added)
              | ok n => exact guest_of_ask kept added fun t has => by cases has; rfl
      | running untouched threaded on => exact guest_of_ask untouched threaded on
      | finished untouched threaded => exact .finished untouched threaded
  | abandon =>
      rw [perform_abandon_run]
      cases guest with
      | fresh policy query untouched threaded => exact .finished untouched (.inl threaded)
      | running untouched threaded on => exact .finished untouched (.inr threaded)
      | finished untouched threaded => exact .finished untouched threaded

end

/-! ## All requests -/

/-- A sequence asks its engine for nothing before the first request for an item, nor after it has
finished; then it gives the end. -/
structure Rests (q : RowSequence (Watched σ)) (w : World (Watched σ)) : Prop where
  before : ∀ requests, Request.next ∉ requests → q.after w requests = w
  finished : ∀ requests later, RowReply.Finished (q.replies w requests) →
    q.replies w (requests ++ later) = q.replies w requests ++ later.map Request.ended ∧
      q.after w (requests ++ later) = q.after w requests

/-- What some requests open where the engine gives the session `number?`: nothing, unless the first
of them asks for an item. -/
def opened? (number? : Option Nat) : List Request → Option Nat
  | .next :: _ => number?
  | _ => none

/-- A sequence creates the session that its engine gives with the first request for an item, and no
other. The session is open as long as the sequence is suspended after an item and has been closed
once when the sequence has finished. -/
structure ClosesOwn (number? : Option Nat) (q : RowSequence (Watched σ)) (w : World (Watched σ)) :
    Prop extends Rests q w where
  created : ∀ requests, (q.after w requests).backend.created = (opened? number? requests).toList
  once : ∀ requests, (q.after w requests).backend.created.length ≤ 1
  suspended : ∀ requests, RowReply.Suspended (q.replies w requests) →
    ∃ number, (q.after w requests).backend.created = [number] ∧
      (q.after w requests).backend.closed = []
  released : ∀ requests, RowReply.Finished (q.replies w requests) →
    (q.after w requests).backend.closed = (q.after w requests).backend.created

/-- A sequence creates and closes no session, and adds one thread at most, to the session that it
was given. -/
structure SparesGiven (session : Session (Watched σ)) (q : RowSequence (Watched σ))
    (w : World (Watched σ)) : Prop extends Rests q w where
  created : ∀ requests, (q.after w requests).backend.created = []
  closed : ∀ requests, (q.after w requests).backend.closed = [] ∧
    session.isClosed (q.after w requests) = session.isClosed w
  threaded : ∀ requests, (q.after w requests).backend.threaded = [] ∨
    (q.after w requests).backend.threaded = [session.inEngine]

/-- A fresh sequence that is suspended after its requests is running, and one that has finished
is. -/
theorem fresh_stands {policy : Policy (Watched σ)} {query : String}
    {session : Option (Session (Watched σ))} {w : World (Watched σ)} (requests : List Request) :
    (RowReply.Suspended ((fresh policy query session).replies w requests) →
        ((play requests (fresh policy query session)).run w).1.2.IsRunning) ∧
      (RowReply.Finished ((fresh policy query session).replies w requests) →
        ((play requests (fresh policy query session)).run w).1.2 = .finished) := by
  rw [replies]
  rcases play_stands requests (fresh policy query session) w with
    ⟨-, played⟩ | ⟨⟨some, items⟩, running⟩ | ⟨⟨r, member, last⟩, finished⟩
  · rw [played]
    exact ⟨fun suspended => absurd rfl suspended.1, fun ⟨_, member, _⟩ => nomatch member⟩
  · refine ⟨fun _ => running, fun ⟨r, member, last⟩ => ?_⟩
    exact absurd (items r member) (by simp [last])
  · refine ⟨fun suspended => ?_, fun _ => finished⟩
    exact absurd (suspended.2 r member) (by simp [last])

theorem rests_fresh (policy : Policy (Watched σ)) (query : String)
    (session : Option (Session (Watched σ))) (w : World (Watched σ)) :
    Rests (.fresh policy query session) w where
  before requests noItem := by
    cases requests with
    | nil => rfl
    | cons request rest =>
        cases request with
        | next => exact absurd List.mem_cons_self noItem
        | abandon =>
            -- Giving it up finishes a sequence that was never asked.
            rw [after, play_cons, perform_abandon_run]
            simp only [play_finished]
            rfl
  finished requests later finished := by
    have ended := (fresh_stands requests).2 finished
    simp only [replies, after, play_append, ended, play_finished, and_self]

/-- The first request decides which session a sequence owns, and no later one changes it. -/
theorem own_of_play (policy : Policy σ) (query : String) (noneYet : NoneYet w)
    (requests : List Request) (asked : requests ≠ []) :
    let played := (play requests (.fresh policy.watched query none)).run w
    Own (opened? (policy.session? w.backend.state) requests) played.1.2 played.2 := by
  cases requests with
  | nil => exact absurd rfl asked
  | cons request later =>
      rw [play_cons]
      cases request with
      | next =>
          exact play_preserves (fun _ _ => own_of_perform) later
            (own_of_first policy query noneYet)
      | abandon =>
          rw [perform_abandon_run]
          exact play_preserves (fun _ _ => own_of_perform) later (.finished noneYet.allClosed)

theorem closesOwn_fresh (policy : Policy σ) (query : String) {w : World (Watched σ)}
    (noneYet : NoneYet w) :
    ClosesOwn (policy.session? w.backend.state) (.fresh policy.watched query none) w := by
  have own := own_of_play policy query noneYet
  have created : ∀ requests,
      ((fresh policy.watched query none).after w requests).backend.created =
        (opened? (policy.session? w.backend.state) requests).toList := by
    intro requests
    cases requests with
    | nil => exact noneYet.created
    | cons request later => exact (own _ (List.cons_ne_nil request later)).created
  refine { rests_fresh _ _ _ _ with created, once := ?_, suspended := ?_, released := ?_ }
  · intro requests
    rw [created]
    exact Option.length_toList_le
  · intro requests suspended
    have asked : requests ≠ [] := by
      rintro rfl
      exact suspended.1 rfl
    exact (own requests asked).isOpen ((fresh_stands requests).1 suspended)
  · intro requests finished
    have asked : requests ≠ [] := by
      rintro rfl
      obtain ⟨_, member, _⟩ := finished
      exact absurd member List.not_mem_nil
    have all := (own requests asked).allClosed ((fresh_stands requests).2 finished)
    exact all.closed.trans all.created.symm

theorem sparesGiven_fresh (engine : Engine σ) (policy : Policy (Watched σ)) (query : String)
    {session : Session (Watched σ)} (onEngine : session.engine = engine.watched)
    {w : World (Watched σ)} (noneYet : NoneYet w) (threaded : w.backend.threaded = []) :
    SparesGiven session (.fresh policy query (some session)) w := by
  have fresh : Guest session w.closed (.fresh policy query (some session)) w :=
    .fresh policy query ⟨noneYet, rfl⟩ threaded
  have guest := fun requests =>
    play_preserves (fun _ _ => guest_of_perform onEngine) requests fresh
  have untouched : ∀ {q w'}, Guest session w.closed q w' → Untouched w.closed w' := by
    rintro q w' (⟨_, _, untouched, _⟩ | ⟨untouched, _, _⟩ | ⟨untouched, _⟩) <;> exact untouched
  refine { rests_fresh _ _ _ _ with created := ?_, closed := ?_, threaded := ?_ }
  · exact fun requests => (untouched (guest requests)).noneYet.created
  · intro requests
    have here := untouched (guest requests)
    exact ⟨here.noneYet.closed, congrArg (·.get session.number) here.flags⟩
  · intro requests
    have here := guest requests
    rw [after]
    generalize ((play requests _).run w).1.2 = q at here
    cases here with
    | fresh _ _ _ threaded => exact .inl threaded
    | running _ threaded _ => exact .inr threaded
    | finished _ threaded => exact threaded

/-- **A sequence of rows opens its own session when it is first asked and releases it once, and
spares one that it was given**, with any engine and for any requests to it. -/
theorem ofQuery_lifetime (policy : Policy σ) (query : String) (context : QueryText.Context)
    (w : World σ) :
    ClosesOwn (policy.session? w.backend) (ofQuery policy.watched query context none) w.watched ∧
      ∀ session : Session σ, SparesGiven session.watched
        (ofQuery policy.watched query context (some session.watched)) w.watched :=
  ⟨closesOwn_fresh (w := w.watched) policy _ ⟨rfl, rfl⟩,
    fun session => sparesGiven_fresh session.engine _ _ rfl ⟨rfl, rfl⟩ rfl⟩

end RowSequence

end WorkspacePolicy
