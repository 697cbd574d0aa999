/-
# Proofs.Engine.Bridge.Exchange — goals with their replies, and what the replies say

The goals of a run and the replies that the other side gave to them make up its log
(`State.log`). A reply to a goal *says* something when the goal is true and its output has the
form that belongs to the goal (`Says`): that a text was accepted, that something was thrown, an
answer, or the end. Every operation on a thread is determined by what the replies say
(`query_of_accepted`, `answer_of_answer` and the others); a reply that says nothing is
malformed.
-/
import WorkspacePolicy.Proofs.Engine.Bridge.Calls

namespace WorkspacePolicy.Bridge

set_option autoImplicit false

/-! ## Replies -/

/-- What a reply may say. -/
inductive Message where
  | accepted
  | thrown (term : Term)
  | answer (links : Bindings)
  | done

/-- A reply to a goal says something: the goal is true, and its output has the right form. -/
inductive Says : Goal → Reply → Message → Prop
  | consulted {session : Nat} {source : String} {outputs : List (String × Json)}
      {directives : List Json} :
      Entries.find? "R" outputs = some (.array [.string "ok", .array directives]) →
      Says (.consult session source) ⟨true, outputs⟩ .accepted
  | consultThrown {session : Nat} {source : String} {outputs : List (String × Json)} {data : Json}
      {term : Term} :
      Entries.find? "R" outputs = some (.array [.string "throw", data]) →
      decode data = .ok term →
      Says (.consult session source) ⟨true, outputs⟩ (.thrown term)
  | started {session : Nat} {query : Alias} {source : String} {outputs : List (String × Json)} :
      Entries.find? "R" outputs = some (.array [.string "ok"]) →
      Says (.start session query source) ⟨true, outputs⟩ .accepted
  | startThrown {session : Nat} {query : Alias} {source : String}
      {outputs : List (String × Json)} {data : Json} {term : Term} :
      Entries.find? "R" outputs = some (.array [.string "throw", data]) →
      decode data = .ok term →
      Says (.start session query source) ⟨true, outputs⟩ (.thrown term)
  | answered {query : Alias} {outputs : List (String × Json)} {data : Json} {links : Bindings} :
      Entries.find? "A" outputs = some (.array [.string "answer", data]) →
      decodeBindings data = .ok links →
      Says (.next query) ⟨true, outputs⟩ (.answer (Entries.ofList links))
  | answerThrown {query : Alias} {outputs : List (String × Json)} {data : Json} {term : Term} :
      Entries.find? "A" outputs = some (.array [.string "throw", data]) →
      decode data = .ok term →
      Says (.next query) ⟨true, outputs⟩ (.thrown term)
  | ended {query : Alias} {outputs : List (String × Json)} :
      Entries.find? "A" outputs = some (.array [.string "done"]) →
      Says (.next query) ⟨true, outputs⟩ .done
  | stopped {query : Alias} {outputs : List (String × Json)} :
      Says (.stop query) ⟨true, outputs⟩ .accepted
  | disposed {session : Nat} {outputs : List (String × Json)} :
      Says (.dispose session) ⟨true, outputs⟩ .accepted

theorem Says.succeeded {goal : Goal} {reply : Reply} {message : Message}
    (said : Says goal reply message) : reply.succeeded := by
  cases said <;> rfl

/-- A reply says one thing. -/
theorem Says.unique {goal : Goal} {reply : Reply} {message message' : Message}
    (said : Says goal reply message) (said' : Says goal reply message') : message = message' := by
  cases said <;> cases said' <;> simp_all

/-- A reply to the start of a query says that it was accepted or what was thrown. -/
theorem says_start {session : Nat} {a : Alias} {source : String} {reply : Reply} {message : Message}
    (said : Says (.start session a source) reply message) :
    message = .accepted ∨ ∃ term, message = .thrown term := by
  cases said with
  | started _ => exact .inl rfl
  | startThrown _ _ => exact .inr ⟨_, rfl⟩

/-- A reply to a goal for the next answer gives it, says what was thrown or that there is none. -/
theorem says_next {a : Alias} {reply : Reply} {message : Message}
    (said : Says (.next a) reply message) :
    (∃ links, message = .answer links) ∨ (∃ term, message = .thrown term) ∨ message = .done := by
  cases said with
  | answered _ _ => exact .inl ⟨_, rfl⟩
  | answerThrown _ _ => exact .inr (.inl ⟨_, rfl⟩)
  | ended _ => exact .inr (.inr rfl)

/-! ## Logs -/

/-- A goal with the reply that it got. -/
structure Exchange where
  goal : Goal
  reply : Reply

namespace Exchange

/-- The reply says something. -/
def IsWellFormed (e : Exchange) : Prop := ∃ message, Says e.goal e.reply message

end Exchange

/-- Goals with their replies, as far as there are any. -/
def exchanges : List Goal → List Reply → List Exchange
  | [], _ => []
  | goal :: goals, replies => ⟨goal, replies.head?.getD .missing⟩ :: exchanges goals replies.tail

theorem exchanges_append (goals more : List Goal) (replies : List Reply) :
    exchanges (goals ++ more) replies =
      exchanges goals replies ++ exchanges more (replies.drop goals.length) := by
  induction goals generalizing replies with
  | nil => rfl
  | cons goal goals ih =>
      rw [List.cons_append, exchanges, exchanges, ih, List.drop_tail]
      rfl

variable {replies : List Reply} {s s' : State} {n : Nat}

namespace State

/-- The exchanges of a run that began with some replies. -/
def log (s : State) (replies : List Reply) : List Exchange := exchanges s.goals replies

/-- Of the replies at the beginning one has been used up for each goal. -/
def Served (s : State) (replies : List Reply) : Prop := s.replies = replies.drop s.goals.length

theorem served_called (served : s.Served replies) (goal : Goal) :
    (s.called goal).Served replies := by
  unfold Served at served ⊢
  rw [goals_called, List.length_append, ← List.drop_drop, ← served]
  simp [called]

theorem log_called (served : s.Served replies) (goal : Goal) :
    (s.called goal).log replies = s.log replies ++ [⟨goal, s.reply⟩] := by
  unfold log
  rw [goals_called, exchanges_append, ← served]
  rfl

end State

/-- What comes between two states adds to the log. -/
theorem Within.log_prefix {session : Nat} {group changed : List Nat}
    (within : Within session group changed s s') (served : s.Served replies) :
    s'.Served replies ∧ s.log replies <+: s'.log replies := by
  obtain ⟨goals, added, used, -⟩ := within.goals_eq
  unfold State.Served at served ⊢
  constructor
  · rw [used, served, added, List.drop_drop, List.length_append]
  · rw [State.log, State.log, added, exchanges_append]
    exact List.prefix_append ..

/-! ## Operations by what is said -/

theorem stopCurrent_of_succeeded {a : Alias} (current : (s.threads.get n).current = some a)
    (succeeded : s.reply.succeeded) :
    (stopCurrent n).result s = (.ok (), (s.called (.stop a)).holding n none) := by
  rw [stopCurrent_of_some current, if_pos succeeded]

section

variable {s₁ : State} {source : String}

/-- What a thread does after it has taken a name, where the reply has an output. -/
theorem query_of_output {data : Json} (stopped : (stopCurrent n).result s = (.ok (), s₁))
    (succeeded : s₁.reply.succeeded) (found : Entries.find? "R" s₁.reply.outputs = some data) :
    (query n source).result s = (do
      if ← orFail (hasTag "throw" data) then
        return { first := .refused (← orFail (item data 1 >>= decode)) }
      else
        modify fun s => s.setThread n { s.threads.get n with current := some (s₁.nextQuery n) }
        return { first := .accepted } : Action State (Delivery Acknowledgement)).result
          ((s₁.attempted n).called
            (.start (s₁.threads.get n).session (s₁.nextQuery n) source)) := by
  unfold query
  rw [Action.result_bind_ok _ stopped, Action.result_bind, Action.result_get]
  simp only []
  rw [Action.result_bind, Action.result_modify]
  have output : (callFor (.start (s₁.threads.get n).session (s₁.nextQuery n) source) "R").result
      (s₁.attempted n) = (.ok data, (s₁.attempted n).called
        (.start (s₁.threads.get n).session (s₁.nextQuery n) source)) :=
    callFor_result succeeded found
  exact Action.result_bind_ok _ output

theorem query_of_accepted (stopped : (stopCurrent n).result s = (.ok (), s₁))
    (said : Says (.start (s₁.threads.get n).session (s₁.nextQuery n) source) s₁.reply .accepted) :
    (query n source).result s = (.ok { first := .accepted },
      ((s₁.attempted n).called
        (.start (s₁.threads.get n).session (s₁.nextQuery n) source)).holding n
          (some (s₁.nextQuery n))) := by
  obtain ⟨succeeded, found⟩ : s₁.reply.succeeded ∧
      Entries.find? "R" s₁.reply.outputs = some (.array [.string "ok"]) := by
    generalize s₁.reply = reply at said
    cases said with
    | started found => exact ⟨rfl, found⟩
  rw [query_of_output stopped succeeded found]
  rfl

theorem query_of_thrown {term : Term} (stopped : (stopCurrent n).result s = (.ok (), s₁))
    (said : Says (.start (s₁.threads.get n).session (s₁.nextQuery n) source) s₁.reply
      (.thrown term)) :
    (query n source).result s = (.ok { first := .refused term },
      (s₁.attempted n).called (.start (s₁.threads.get n).session (s₁.nextQuery n) source)) := by
  obtain ⟨data, succeeded, found, decoded⟩ : ∃ data, s₁.reply.succeeded ∧
      Entries.find? "R" s₁.reply.outputs = some (.array [.string "throw", data]) ∧
      decode data = .ok term := by
    generalize s₁.reply = reply at said
    cases said with
    | startThrown found decoded => exact ⟨_, rfl, found, decoded⟩
  rw [query_of_output stopped succeeded found]
  have second : (item (.array [.string "throw", data]) 1 >>= decode) = .ok term := decoded
  rw [second]
  rfl

end

section

variable {a : Alias}

theorem answer_of_output {data : Json} (current : (s.threads.get n).current = some a)
    (succeeded : s.reply.succeeded) (found : Entries.find? "A" s.reply.outputs = some data) :
    (answer n).result s = (do
      if ← orFail (hasTag "done" data) then
        modify fun s => s.setThread n { s.threads.get n with current := none }
        return { first := none }
      else if ← orFail (hasTag "throw" data) then
        stopCurrent n
        return { first := some (.thrown (← orFail (item data 1 >>= decode))) }
      else
        let links ← orFail (item data 1 >>= decodeBindings)
        return { first := some (.bindings (Entries.ofList links)) } :
          Action State (Delivery (Option Answer))).result (s.called (.next a)) := by
  unfold answer
  rw [Action.result_bind, Action.result_get]
  simp only [current]
  exact Action.result_bind_ok _ (callFor_result succeeded found)

theorem answer_of_answer {links : Bindings} (current : (s.threads.get n).current = some a)
    (said : Says (.next a) s.reply (.answer links)) :
    (answer n).result s = (.ok { first := some (.bindings links) }, s.called (.next a)) := by
  obtain ⟨data, pairs, succeeded, found, decoded, rfl⟩ : ∃ data pairs, s.reply.succeeded ∧
      Entries.find? "A" s.reply.outputs = some (.array [.string "answer", data]) ∧
      decodeBindings data = .ok pairs ∧ links = Entries.ofList pairs := by
    generalize s.reply = reply at said
    cases said with
    | answered found decoded => exact ⟨_, _, rfl, found, decoded, rfl⟩
  rw [answer_of_output current succeeded found]
  have second : (item (.array [.string "answer", data]) 1 >>= decodeBindings) = .ok pairs := decoded
  rw [second]
  rfl

theorem answer_of_done (current : (s.threads.get n).current = some a)
    (said : Says (.next a) s.reply .done) :
    (answer n).result s = (.ok { first := none }, (s.called (.next a)).holding n none) := by
  obtain ⟨succeeded, found⟩ : s.reply.succeeded ∧
      Entries.find? "A" s.reply.outputs = some (.array [.string "done"]) := by
    generalize s.reply = reply at said
    cases said with
    | ended found => exact ⟨rfl, found⟩
  rw [answer_of_output current succeeded found]
  rfl

/-- A query whose answer was thrown is stopped before the term is handed on. -/
theorem answer_of_thrown {term : Term} (current : (s.threads.get n).current = some a)
    (said : Says (.next a) s.reply (.thrown term)) :
    (answer n).result s = (do
      stopCurrent n
      return { first := some (.thrown term) } : Action State (Delivery (Option Answer))).result
        (s.called (.next a)) := by
  obtain ⟨data, succeeded, found, decoded⟩ : ∃ data, s.reply.succeeded ∧
      Entries.find? "A" s.reply.outputs = some (.array [.string "throw", data]) ∧
      decode data = .ok term := by
    generalize s.reply = reply at said
    cases said with
    | answerThrown found decoded => exact ⟨_, rfl, found, decoded⟩
  rw [answer_of_output current succeeded found]
  have second : (item (.array [.string "throw", data]) 1 >>= decode) = .ok term := decoded
  rw [second]
  rfl

end

end WorkspacePolicy.Bridge
