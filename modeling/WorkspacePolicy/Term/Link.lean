/-
# Term.Link — bound values as results

A result of a query binds a variable to a term. `Term.linkText` is the value as a
text: names and strings are the texts themselves, numbers are written out, and lists
and other compounds are the text of the term; the atom `null` is a missing value.

`Term.linkJson` is the value as JSON. A text that already holds strict JSON is
written anew without white space, and any other text becomes a JSON string.

A term that holds a whole number with too many digits has neither.
-/
import WorkspacePolicy.Json.Reader
import WorkspacePolicy.Json.Writer
import WorkspacePolicy.Term.Data

namespace WorkspacePolicy.Term

set_option autoImplicit false

/-- A whole number has more digits than a text may have. -/
structure Unwritable where
  deriving DecidableEq, Repr

def Unwritable.message (_ : Unwritable) : String :=
  s!"Exceeds the limit ({Number.digitLimit} digits) for integer string conversion; " ++
    "use sys.set_int_max_str_digits() to increase the limit"

mutual

/-- Every number of the term has a text. -/
def isWritable : Term → Bool
  | .number value => value.isWritable
  | .string _ => true
  | .variable _ => true
  | .compound _ args => areWritable args
termination_by structural t => t

/-- Every number of the terms has a text. -/
def areWritable : List Term → Bool
  | [] => true
  | t :: rest => isWritable t && areWritable rest
termination_by structural terms => terms

end

/-- A bound value as a text; `none` for `null`. -/
def linkText (t : Term) : Except Unwritable (Option String) :=
  if t.isNull then .ok none
  else if !t.isWritable then .error ⟨⟩
  else
    match t.toJson with
    | .string s => .ok (some s)
    | .number n => .ok (some n.text)
    | _ => .ok (some t.text)

/-- A text as JSON: the document it holds, or else a string. -/
def canonicalJson (s : String) : String :=
  match Json.read true s with
  | .ok value => value.text .compact
  | .error _ => (Json.string s).text .compact

/-- A bound value as JSON text; `none` for `null`. -/
def linkJson (t : Term) : Except Unwritable (Option String) :=
  if t.isNull then .ok none
  else if !t.isWritable then .error ⟨⟩
  else
    match t.toJson with
    | .string s => .ok (some (canonicalJson s))
    | value => .ok (some (value.text .compact))

end WorkspacePolicy.Term
