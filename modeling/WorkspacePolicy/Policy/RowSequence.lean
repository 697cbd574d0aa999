/-
# Policy.RowSequence — the answers of an ad hoc query

A row holds the values of the variables of one answer as texts; the variable `_` is
left out. A sequence of rows either runs on a further thread of a session that it was
given, or owns a session: that one is created at the first step and closed as soon as
the sequence has finished, be it at the end, by a failure or because it is given up.
-/
import WorkspacePolicy.Policy.Basic
import WorkspacePolicy.Policy.Conclusion
import WorkspacePolicy.QueryText
import WorkspacePolicy.Session.AnswerSequence

namespace WorkspacePolicy

set_option autoImplicit false

/-- The values of the variables of an answer. -/
abbrev Row := List (String × Option String)

namespace Row

/-- One cell of a row. -/
def cell (link : String × Term) : Except Failure (String × Option String) :=
  match link.2.linkText with
  | .ok text => .ok (link.1, text)
  | .error fault => .error (.unwritable fault)

/-- The row of an answer. -/
def ofBindings (links : Bindings) : Except Failure Row :=
  (links.filter (·.1 != "_")).mapM cell

end Row

/-- The rows of a query. -/
inductive RowSequence (σ : Type) where
  | fresh (policy : Policy σ) (query : String) (session : Option (Session σ))
  | running (owned : Option (Session σ)) (answers : AnswerSequence σ)
  | finished

namespace RowSequence

variable {σ : Type}

/-- The rows of a query in a context, in the given session or in one of their own. -/
def ofQuery (policy : Policy σ) (query : String) (context : QueryText.Context)
    (session : Option (Session σ)) : RowSequence σ :=
  .fresh policy (QueryText.text query context) session

/-- The thread of a sequence, and the session that the sequence owns. -/
def openThread (policy : Policy σ) :
    Option (Session σ) → Action (World σ) (Option (Session σ) × Thread σ)
  | none => do
    let session ← policy.createSession
    return (some session, session.main)
  | some session => do
    return (none, ← session.createThread)

/-- Closes the session that a sequence owns. -/
def release : Option (Session σ) → Action (World σ) Unit
  | none => pure ()
  | some session => session.close

/-- The last step of a sequence. A failure to close its session is the result of the step. -/
def finish (owned : Option (Session σ)) (last : Pull Row) :
    StateM (World σ) (Pull Row × RowSequence σ) := do
  match ← (release owned).outcome with
  | .ok () => return (last, .finished)
  | .error failure => return (.failed failure, .finished)

/-- The step of a sequence whose query has been prepared. -/
def ask (owned : Option (Session σ)) (answers : AnswerSequence σ) :
    StateM (World σ) (Pull Row × RowSequence σ) := do
  let world ← get
  let ((pull, answers), backend) := answers.next.run world.backend
  set { world with backend := backend }
  match pull.convert Row.ofBindings with
  | .item row => return (.item row, .running owned answers)
  | last => finish owned last

/-- One step. -/
def next : RowSequence σ → StateM (World σ) (Pull Row × RowSequence σ)
  | .fresh policy query session => do
    match ← (openThread policy session).outcome with
    | .ok (owned, thread) => ask owned (.fresh thread query)
    | .error failure => return (.failed failure, .finished)
  | .running owned answers => ask owned answers
  | .finished => return (.done, .finished)

/-- Gives the sequence up; after that it has finished. -/
def abandon : RowSequence σ → Action (World σ) Unit
  | .running owned _ => release owned
  | _ => pure ()

/-- A bound for the number of rows that are left. -/
def remaining (s : RowSequence σ) (world : World σ) : Nat :=
  match s with
  | .running _ answers => answers.remaining world.backend
  | _ => 0

/-- All rows that are left. -/
def drain (s : RowSequence σ) : StateM (World σ) (Drained Row × RowSequence σ) :=
  Pull.drainAll next remaining s

end RowSequence

end WorkspacePolicy
