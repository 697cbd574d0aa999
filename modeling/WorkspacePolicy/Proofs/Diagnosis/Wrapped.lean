/-
# Proofs.Diagnosis.Wrapped — errors inside any number of wrappers

An error term says what went wrong (`Formal`) and may be wrapped in `throw/1`, `error/1` and
`error/2` any number of times. The kind of the error is that of what went wrong. Its message is
the summary of that, then a note for the context of every `error/2`, from the innermost to the
outermost, and last the line and the column, if both are known.

The context of an `error/2` right around `syntax_error/1` is different: it adds no note but
supplies the position (`Formal.direct?`), and no other wrapper does.
-/
import WorkspacePolicy.Proofs.Diagnosis.Readable

namespace WorkspacePolicy

set_option autoImplicit false

open Diagnosis

namespace Diagnosis

variable {ρ : Type}

/-- The diagnosis with more texts after its message. -/
def addNotes (d : Diagnosis ρ) (notes : List String) : Diagnosis ρ :=
  { d with notes := d.notes ++ notes }

@[simp] theorem addNotes_nil (d : Diagnosis ρ) : d.addNotes [] = d := by
  simp [addNotes]

@[simp] theorem addNotes_addNotes (d : Diagnosis ρ) (notes more : List String) :
    (d.addNotes notes).addNotes more = d.addNotes (notes ++ more) := by
  simp [addNotes]

theorem message_addNotes (d : Diagnosis ρ) (notes : List String) :
    (d.addNotes notes).message = d.message ++ String.join notes := by
  simp [message, addNotes, String.append_assoc]

theorem at?_addNotes (d : Diagnosis ρ) (notes : List String) (key : PositionKey) :
    (d.addNotes notes).at? key = d.at? key := by
  cases key <;> rfl

end Diagnosis

/-- What went wrong, under all wrappers. -/
inductive Formal where
  | syntaxError (reason : Term)
  | existence (kind missing : Term)
  | instantiation

/-- What may stand around an error. -/
inductive Wrapper where
  | throw
  | error
  | within (context : Term)

namespace Reading

/-- The reading of a term that has one. -/
def readingOf (t : Term) : Reading := (ofTerm? t).toOption.getD (.text "")

/-- How a term that has a reading is shown in a message. -/
def shown (t : Term) : String := (readingOf t).display

theorem reads_readingOf {t : Term} (readable : Passes ofTerm? t) : Reads t (readingOf t) := by
  obtain ⟨r, read⟩ := readable
  rw [readingOf, read]
  exact reads_iff.mpr read

end Reading

open Reading

namespace Wrapper

/-- The wrapper around a term. -/
def around (t : Term) : Wrapper → Term
  | .throw => .compound "throw" [t]
  | .error => .compound "error" [t]
  | .within context => .compound "error" [t, context]

/-- The context of the wrapper can be read, if it has one. -/
def IsReadable : Wrapper → Prop
  | .within context => Passes ofTerm? context
  | _ => True

/-- The note that the wrapper adds to the message. -/
def note? : Wrapper → Option String
  | .within context => some s!" (in {shown context})"
  | _ => none

end Wrapper

namespace Formal

def term : Formal → Term
  | .syntaxError reason => .compound "syntax_error" [reason]
  | .existence kind missing => .compound "existence_error" [kind, missing]
  | .instantiation => .atom "instantiation_error"

def kind : Formal → Kind
  | .syntaxError _ => .syntaxError
  | .existence _ _ => .existence
  | .instantiation => .instantiation

def args : Formal → List Term
  | .syntaxError reason => [reason]
  | .existence kind missing => [kind, missing]
  | .instantiation => []

/-- The message of what went wrong alone. -/
def summary : Formal → String
  | .syntaxError reason => s!"Syntax error: {shown reason}"
  | .existence kind missing => s!"Existence error: {shown kind} {shown missing} not found"
  | .instantiation => instantiationSummary

/-- The term with its wrappers, the innermost first. -/
def wrapped (formal : Formal) (wrappers : List Wrapper) : Term :=
  wrappers.foldl Wrapper.around formal.term

/-- The context right around `syntax_error/1`. -/
def direct? : Formal → List Wrapper → Option Term
  | .syntaxError _, .within context :: _ => some context
  | _, _ => none

/-- The wrappers whose contexts are notes. -/
def others : Formal → List Wrapper → List Wrapper
  | .syntaxError _, .within _ :: wrappers => wrappers
  | _, wrappers => wrappers

/-- The notes, from the innermost wrapper to the outermost. -/
def notes (formal : Formal) (wrappers : List Wrapper) : List String :=
  (formal.others wrappers).filterMap Wrapper.note?

/-- What the context right around `syntax_error/1` supplies for one part of the place. -/
def supplied? (formal : Formal) (wrappers : List Wrapper) (key : PositionKey) : Option Reading :=
  (formal.direct? wrappers).bind fun context => lastOf? key (positions (readingOf context))

end Formal

/-- The text for a line and a column; none, unless both are there. -/
def positionText : Option Reading → Option Reading → String
  | some line, some column => s!" at line {line.display}, column {column.display}"
  | _, _ => ""

namespace Wrapper

variable {t : Term} {d : LogicError}

theorem isSyntaxError_around (t : Term) (wrapper : Wrapper) :
    isSyntaxError (wrapper.around t) = false := by
  cases wrapper <;> simp [around, isSyntaxError]

/-- One wrapper adds its note, unless it supplies the position. -/
theorem reads_around {wrapper : Wrapper} (readable : wrapper.IsReadable)
    (indirect : ∀ context, wrapper = .within context → isSyntaxError t = false)
    (reads : Reads t (.error d)) :
    Reads (wrapper.around t) (.error (d.addNotes wrapper.note?.toList)) := by
  cases wrapper with
  | throw =>
      have inside := Reads.wrapper (.inl rfl) reads
      simpa [around, note?] using inside
  | error =>
      have inside := Reads.wrapper (.inr rfl) reads
      simpa [around, note?] using inside
  | within context => exact .explained (indirect context rfl) reads (reads_readingOf readable)

/-- Any number of wrappers add their notes in order, unless the first supplies the position. -/
theorem reads_foldl_around {wrappers : List Wrapper} (readable : ∀ w ∈ wrappers, w.IsReadable)
    (indirect : ∀ context, wrappers.head? = some (.within context) → isSyntaxError t = false)
    (reads : Reads t (.error d)) :
    Reads (wrappers.foldl around t) (.error (d.addNotes (wrappers.filterMap note?))) := by
  induction wrappers generalizing t d with
  | nil => simpa using reads
  | cons wrapper wrappers ih =>
      obtain ⟨first, rest⟩ := List.forall_mem_cons.mp readable
      have step := reads_around first (fun context same => indirect context (by simp [same])) reads
      have inside := ih rest (fun _ _ => isSyntaxError_around t wrapper) step
      cases note : wrapper.note? <;> simpa [note, List.filterMap_cons] using inside

end Wrapper

namespace Formal

variable {formal : Formal} {wrappers : List Wrapper}

theorem reads_term (readable : ∀ arg ∈ formal.args, Passes ofTerm? arg) :
    Reads formal.term (.error (ofSummary formal.kind formal.summary)) := by
  cases formal with
  | syntaxError reason => exact .syntaxError (reads_readingOf (readable reason (by simp [args])))
  | existence kind missing =>
      exact .existence (reads_readingOf (readable kind (by simp [args])))
        (reads_readingOf (readable missing (by simp [args])))
  | instantiation => exact .instantiation

/-- The diagnosis of what went wrong, with its place. -/
def placed (formal : Formal) (wrappers : List Wrapper) : LogicError :=
  match formal.direct? wrappers with
  | some context => (ofSummary formal.kind formal.summary).merge (readingOf context)
  | none => ofSummary formal.kind formal.summary

theorem unplaced_placed (formal : Formal) (wrappers : List Wrapper) :
    (formal.placed wrappers).unplaced = (formal.kind, formal.summary, []) := by
  unfold placed
  cases formal.direct? wrappers with
  | some context => exact unplaced_merge _ _
  | none => rfl

theorem at?_placed (formal : Formal) (wrappers : List Wrapper) (key : PositionKey) :
    (formal.placed wrappers).at? key = formal.supplied? wrappers key := by
  have nowhere : (ofSummary formal.kind formal.summary : LogicError).at? key = none := by
    cases key <;> rfl
  unfold placed supplied?
  cases formal.direct? wrappers with
  | some context => rw [at?_merge, nowhere, Option.or_none]; rfl
  | none => exact nowhere

/-- The reading of an error in its wrappers. -/
theorem reads_wrapped (args : ∀ arg ∈ formal.args, Passes ofTerm? arg)
    (contexts : ∀ w ∈ wrappers, w.IsReadable) :
    Reads (formal.wrapped wrappers)
      (.error ((formal.placed wrappers).addNotes (formal.notes wrappers))) := by
  have inside := reads_term args
  match formal, wrappers with
  | .syntaxError reason, .within context :: rest =>
      obtain ⟨first, others⟩ := List.forall_mem_cons.mp contexts
      have positioned := Reads.located rfl inside (reads_readingOf first)
      exact Wrapper.reads_foldl_around others
        (fun _ _ => Wrapper.isSyntaxError_around _ (.within context)) positioned
  | .syntaxError reason, [] => exact inside
  | .syntaxError reason, .throw :: rest | .syntaxError reason, .error :: rest =>
      exact Wrapper.reads_foldl_around contexts (by simp) inside
  | .existence kind missing, wrappers | .instantiation, wrappers =>
      exact Wrapper.reads_foldl_around contexts (fun _ _ => rfl) inside

/-- A diagnosis is that of something that went wrong, inside wrappers. -/
structure IsReported (formal : Formal) (wrappers : List Wrapper) (d : LogicError) : Prop where
  /-- The wrappers do not change the kind. -/
  kind : d.kind = formal.kind
  /-- The message is the summary with the notes, the position at its very end. -/
  message : d.message = formal.summary ++ String.join (formal.notes wrappers) ++
    positionText (formal.supplied? wrappers .line) (formal.supplied? wrappers .column)
  /-- The place is what the context right around `syntax_error/1` supplies. -/
  place : ∀ key, d.at? key = formal.supplied? wrappers key

end Formal

namespace LogicError

theorem message_located (d : LogicError) :
    (located d).message = d.message ++ positionText (d.at? .line) (d.at? .column) := by
  unfold located at?
  cases d.line <;> cases d.column <;> simp [positionText, message, addNote, String.append_assoc]

theorem at?_located (d : LogicError) (key : PositionKey) : (located d).at? key = d.at? key := by
  unfold located
  cases line : d.line <;> cases column : d.column <;> cases key <;> simp [addNote, at?]

/-- **An error in wrappers is reported with its own summary, a note for each context, and its
position once at the end.** -/
theorem ofTerm_wrapped {formal : Formal} {wrappers : List Wrapper}
    (args : ∀ arg ∈ formal.args, Passes ofTerm? arg) (contexts : ∀ w ∈ wrappers, w.IsReadable) :
    formal.IsReported wrappers (ofTerm (formal.wrapped wrappers)) := by
  rw [ofTerm_of_ok_error (reads_iff.mp (Formal.reads_wrapped args contexts))]
  have unplaced := formal.unplaced_placed wrappers
  simp only [Diagnosis.unplaced, Prod.mk.injEq] at unplaced
  obtain ⟨kind, summary, noNotes⟩ := unplaced
  constructor
  case kind => exact (kind_located _).trans kind
  case message =>
    have plain : (formal.placed wrappers).message = formal.summary := by
      simp [message, summary, noNotes]
    rw [message_located, message_addNotes, plain, at?_addNotes, at?_addNotes,
      Formal.at?_placed, Formal.at?_placed]
  case place =>
    intro key
    rw [at?_located, at?_addNotes, Formal.at?_placed]

/-- A context that tells a line and a column. -/
def lineAndColumn : Term :=
  .ofItems [.compound "line" [.number (.int 3)], .compound "column" [.number (.int 5)]]

/-- A context that names a predicate. -/
def loading : Term := .compound "/" [.atom "load", .number (.int 1)]

/-- Only the context right around the syntax error supplies the position. -/
theorem ofTerm_wrapped_located :
    (∀ arg ∈ [Term.atom "operator_expected"], Passes ofTerm? arg) ∧
    (∀ w ∈ [.within lineAndColumn, .throw, .within loading, .within lineAndColumn],
      Wrapper.IsReadable w) ∧
    (ofTerm (.compound "error" [.compound "error" [.compound "throw" [.compound "error"
      [.compound "syntax_error" [.atom "operator_expected"], lineAndColumn]], loading],
        lineAndColumn])).message =
      "Syntax error: operator_expected (in load/1) " ++
        "(in [\x7b'line': 3\x7d, \x7b'column': 5\x7d]) at line 3, column 5" := by
  have args : ∀ arg ∈ [Term.atom "operator_expected"], Passes ofTerm? arg := by
    simp only [List.mem_singleton, forall_eq]
    exact ⟨_, rfl⟩
  have contexts : ∀ w ∈ [.within lineAndColumn, .throw, .within loading, .within lineAndColumn],
      Wrapper.IsReadable w := by
    simp only [List.mem_cons, List.not_mem_nil, or_false, forall_eq_or_imp, forall_eq]
    exact ⟨⟨_, rfl⟩, trivial, ⟨_, rfl⟩, ⟨_, rfl⟩⟩
  have reported := @ofTerm_wrapped (.syntaxError (.atom "operator_expected")) _ args contexts
  exact ⟨args, contexts, reported.message.trans (by rfl)⟩

end LogicError

end WorkspacePolicy
