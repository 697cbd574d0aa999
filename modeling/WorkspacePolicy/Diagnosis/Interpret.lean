/-
# Diagnosis.Interpret — reading error terms

An error term is read by the names of its compounds. `throw/1` and `error/1` are
wrappers. `error/2` holds an error and its context: around `syntax_error/1` the
context supplies positions, around any other error its text is added to the message.
`line/1`, `column/1` and `found/1` are positions, `./2` makes a list and `//2` the text
`name/arity`. Any other compound reads as its name.

A variable has no reading, and an `error/2` whose first argument is no error has
none either. `LogicError.ofTerm` turns every term into an error: one without a
reading, or whose reading is no error, becomes an unknown error that shows the term.
-/
import WorkspacePolicy.Diagnosis.Basic

namespace WorkspacePolicy

set_option autoImplicit false

/-- Why a term has no reading. -/
inductive Uninterpretable where
  | unsupportedNode (term : Term)
  | notAnError (term : Term)

namespace Uninterpretable

def message : Uninterpretable → String
  | .unsupportedNode term =>
    s!"couldn't pretty print because of unsupported node {term.text}"
  | .notAnError term => s!"expected an error description in {term.text}"

end Uninterpretable

namespace Diagnosis

/-- The summary of an error for an argument that is not instantiated. -/
def instantiationSummary : String :=
  "Instantiation error: an argument is variable when an instantiated argument was expected"

/-- The positions of a reading: itself, or those in a list. -/
def positions : Reading → List (PositionKey × Reading)
  | .position key value => [(key, value)]
  | .list items => items.filterMap fun item =>
    match item with
    | .position key value => some (key, value)
    | _ => none
  | _ => []

/-- The diagnosis with the positions of a reading; of several for one part the last counts. -/
def merge (d : Diagnosis Reading) (r : Reading) : Diagnosis Reading :=
  (positions r).foldl (fun d p => d.setPosition p.1 p.2) d

end Diagnosis

namespace Reading

open Diagnosis

/-- The list of an item and a rest. The text `[]` ends a list; any other rest that is no
list becomes the last item. -/
def cons (item : Reading) : Reading → Reading
  | .list items => .list (item :: items)
  | .text rest => if rest = Term.nilName then .list [item] else .list [item, .text rest]
  | rest => .list [item, rest]

/-- The diagnosis that a reading is, for the term it was read from. -/
def expectError (source : Term) : Reading → Except Uninterpretable LogicError
  | .error diagnosis => .ok diagnosis
  | _ => .error (.notAnError source)

/-- The term is `syntax_error/1`. -/
def isSyntaxError : Term → Bool
  | .compound name [_] => name == "syntax_error"
  | _ => false

/-- The reading of a term. -/
def ofTerm? : Term → Except Uninterpretable Reading
  | .number value => .ok (.number value)
  | .string s => .ok (.text s)
  | .variable name => .error (.unsupportedNode (.variable name))
  | .compound name [] =>
    if name = "instantiation_error" then
      .ok (.error (ofSummary .instantiation instantiationSummary))
    else .ok (.text name)
  | .compound name [arg] =>
    if name = "throw" ∨ name = "error" then ofTerm? arg
    else if name = "syntax_error" then do
      let reason ← ofTerm? arg
      return .error (ofSummary .syntaxError s!"Syntax error: {reason.display}")
    else if name = "line" then return .position .line (← ofTerm? arg)
    else if name = "column" then return .position .column (← ofTerm? arg)
    else if name = "found" then return .position .found (← ofTerm? arg)
    else .ok (.text name)
  | .compound name [first, second] =>
    if name = "error" then do
      let diagnosis ← expectError first (← ofTerm? first)
      let context ← ofTerm? second
      if isSyntaxError first then return .error (diagnosis.merge context)
      else return .error (diagnosis.addNote s!" (in {context.display})")
    else if name = "existence_error" then do
      let kind ← ofTerm? first
      let missing ← ofTerm? second
      return .error (ofSummary .existence
        s!"Existence error: {kind.display} {missing.display} not found")
    else if name = Term.cellName then do
      let rest ← ofTerm? second
      let item ← ofTerm? first
      return cons item rest
    else if name = "/" then do
      let left ← ofTerm? first
      let right ← ofTerm? second
      return .text s!"{left.display}/{right.display}"
    else .ok (.text name)
  | .compound name _ => .ok (.text name)
termination_by structural t => t

end Reading

namespace LogicError

/-- The diagnosis with its line and column at the end of the message, if it has both. -/
def located (d : LogicError) : LogicError :=
  match d.line, d.column with
  | some line, some column => d.addNote s!" at line {line.display}, column {column.display}"
  | _, _ => d

/-- The error that a term reports. -/
def ofTerm (t : Term) : LogicError :=
  match Reading.ofTerm? t >>= Reading.expectError t with
  | .ok d => located d
  | .error e => Diagnosis.ofSummary .unknown s!"Unknown error: {t.text} (note: {e.message})"

end LogicError

end WorkspacePolicy
