/-
# Proofs.Policy.RowPlay — requests to a sequence of rows

A sequence of rows is asked for items and given up, in any order and on any engine
(`RowSequence.play`). It begins with the first request for an item and has finished with the first
reply that is no item: the end, a failure, or that of giving it up (`play_stands`). After that it
gives the end and asks its engine for nothing (`play_finished`).
-/
import WorkspacePolicy.Proofs.Policy.Rows

namespace WorkspacePolicy

set_option autoImplicit false

/-! ## Requests and replies -/

/-- What a request to a sequence of rows gives. -/
inductive RowReply where
  | pulled (pull : Pull Row)
  | givenUp (outcome : Except Failure Unit)

namespace RowReply

def isItem : RowReply → Bool
  | .pulled (.item _) => true
  | _ => false

/-- The sequence is suspended after an item. -/
def Suspended (replies : List RowReply) : Prop := replies ≠ [] ∧ ∀ r ∈ replies, r.isItem

/-- The sequence has come to its end, has failed or was given up. -/
def Finished (replies : List RowReply) : Prop := ∃ r ∈ replies, r.isItem = false

end RowReply

/-- The reply of a sequence that has finished before. -/
def Request.ended : Request → RowReply
  | .next => .pulled .done
  | .abandon => .givenUp (.ok ())

namespace RowSequence

variable {σ : Type}

/-- A request and its reply. -/
def perform (q : RowSequence σ) : Request → StateM (World σ) (RowReply × RowSequence σ)
  | .next => do
    let (pull, q) ← q.next
    return (.pulled pull, q)
  | .abandon => do
    let outcome ← q.abandon.outcome
    return (.givenUp outcome, .finished)

/-- Requests, one after the other. -/
def play : List Request → RowSequence σ → StateM (World σ) (List RowReply × RowSequence σ)
  | [], q => return ([], q)
  | request :: rest, q => do
    let (reply, q) ← q.perform request
    let (replies, q) ← play rest q
    return (reply :: replies, q)

/-- The replies to some requests. -/
def replies (q : RowSequence σ) (w : World σ) (requests : List Request) : List RowReply :=
  ((play requests q).run w).1.1

/-- The world after some requests. -/
def after (q : RowSequence σ) (w : World σ) (requests : List Request) : World σ :=
  ((play requests q).run w).2

section

variable {q : RowSequence σ} {w : World σ}

theorem perform_next_run : (q.perform .next).run w =
    ((.pulled (q.next.run w).1.1, (q.next.run w).1.2), (q.next.run w).2) := rfl

theorem perform_abandon_run : (q.perform .abandon).run w =
    ((.givenUp (q.abandon.result w).1, .finished), (q.abandon.result w).2) := rfl

theorem play_cons (request : Request) (rest : List Request) :
    (play (request :: rest) q).run w =
      let first := (q.perform request).run w
      let others := (play rest first.1.2).run first.2
      ((first.1.1 :: others.1.1, others.1.2), others.2) := rfl

theorem play_append (requests later : List Request) : (play (requests ++ later) q).run w =
    let first := (play requests q).run w
    let others := (play later first.1.2).run first.2
    ((first.1.1 ++ others.1.1, others.1.2), others.2) := by
  induction requests generalizing q w with
  | nil => rfl
  | cons request rest ih =>
      rw [List.cons_append, play_cons, play_cons]
      simp only [ih, List.cons_append]

/-- A sequence that has finished gives the end and asks its engine for nothing. -/
theorem play_finished (requests : List Request) (w : World σ) :
    (play requests (.finished : RowSequence σ)).run w =
      ((requests.map Request.ended, .finished), w) := by
  induction requests with
  | nil => rfl
  | cons request rest ih =>
      have first : ((finished : RowSequence σ).perform request).run w =
          ((request.ended, .finished), w) := by cases request <;> rfl
      rw [play_cons, first]
      simp only [ih, List.map_cons]

/-! ## Where a sequence stands -/

/-- The sequence has a thread. -/
def IsRunning : RowSequence σ → Prop
  | .running _ _ => True
  | _ => False

/-- A step gives an item and goes on, or gives something else and releases the session. -/
theorem ask_cases (owned : Option (Session σ)) {answers answers' : AnswerSequence σ}
    {pull : Pull Bindings} {s' : σ} (w : World σ)
    (stepped : answers.next.run w.backend = ((pull, answers'), s')) :
    (∃ row, (ask owned answers).run w =
        ((.item row, .running owned answers'), { w with backend := s' })) ∨
      ∃ last, (RowReply.pulled last).isItem = false ∧ (ask owned answers).run w =
        ((last, .finished), ((release owned).result { w with backend := s' }).2) := by
  rw [ask_run owned stepped]
  rcases pull.convert Row.ofBindings with row | _ | failure
  · exact .inl ⟨row, rfl⟩
  all_goals
    simp only [finish_run]
    rcases (release owned).result { w with backend := s' } with ⟨_ | _, w'⟩
    · exact .inr ⟨_, rfl, rfl⟩
    · exact .inr ⟨_, rfl, rfl⟩

/-- A sequence goes on after an item and with nothing else. -/
def Stands (reply : RowReply) (q : RowSequence σ) : Prop :=
  if reply.isItem then q.IsRunning else q = .finished

theorem stands_of_ask (owned : Option (Session σ)) (answers : AnswerSequence σ) (w : World σ) :
    Stands (.pulled ((ask owned answers).run w).1.1) ((ask owned answers).run w).1.2 := by
  rcases stepped : answers.next.run w.backend with ⟨⟨pull, answers'⟩, s'⟩
  rcases ask_cases owned w stepped with ⟨row, asked⟩ | ⟨last, noItem, asked⟩
  · rw [asked]
    exact trivial
  · simp [asked, Stands, noItem]

theorem stands_of_perform (q : RowSequence σ) (w : World σ) (request : Request) :
    Stands ((q.perform request).run w).1.1 ((q.perform request).run w).1.2 := by
  cases request with
  | abandon => exact rfl
  | next =>
      rw [perform_next_run]
      cases q with
      | fresh policy query session =>
          rw [next_fresh_run]
          rcases (openThread policy session).result w with ⟨failure | ⟨owned, thread⟩, w'⟩
          · exact rfl
          · exact stands_of_ask owned _ w'
      | running owned answers => exact stands_of_ask owned answers w
      | finished => exact rfl

/-- After its requests a sequence has not been asked, is running after items, or has finished. -/
theorem play_stands (requests : List Request) (q : RowSequence σ) (w : World σ) :
    let played := (play requests q).run w
    (requests = [] ∧ played = (([], q), w)) ∨
      (RowReply.Suspended played.1.1 ∧ played.1.2.IsRunning) ∨
      (RowReply.Finished played.1.1 ∧ played.1.2 = .finished) := by
  induction requests generalizing q w with
  | nil => exact .inl ⟨rfl, rfl⟩
  | cons request rest ih =>
      have stands := stands_of_perform q w request
      rw [play_cons]
      rcases performed : (q.perform request).run w with ⟨⟨reply, q'⟩, w'⟩
      rw [performed] at stands
      cases item : reply.isItem with
      | false =>
          obtain rfl : q' = .finished := by simpa [Stands, item] using stands
          simp only [play_finished]
          exact .inr (.inr ⟨⟨reply, List.mem_cons_self, item⟩, trivial⟩)
      | true =>
          have running : q'.IsRunning := by simpa [Stands, item] using stands
          rcases ih q' w' with ⟨rfl, played⟩ | ⟨⟨-, items⟩, running⟩ | ⟨⟨r, member, last⟩, finished⟩
          · simp only [played]
            exact .inr (.inl ⟨⟨by simp, by simpa using item⟩, running⟩)
          · exact .inr (.inl ⟨⟨by simp, List.forall_mem_cons.mpr ⟨item, items⟩⟩, running⟩)
          · exact .inr (.inr ⟨⟨r, List.mem_cons_of_mem _ member, last⟩, finished⟩)

/-- What every request keeps holds after all of them. -/
theorem play_preserves {I : RowSequence σ → World σ → Prop}
    (step : ∀ q w request, I q w →
      I ((q.perform request).run w).1.2 ((q.perform request).run w).2)
    (requests : List Request) {q : RowSequence σ} {w : World σ} (before : I q w) :
    I ((play requests q).run w).1.2 ((play requests q).run w).2 := by
  induction requests generalizing q w with
  | nil => exact before
  | cons request rest ih => exact ih (step q w request before)

end

end RowSequence

end WorkspacePolicy
