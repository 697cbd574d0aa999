/-
# Term.Data — terms and plain data

`Term.toJson` reads a term as data: numbers are numbers, strings and names are texts,
lists are arrays, and any other compound is the text of the term.

In the other direction `Value.toTerm?` writes data as a term: a missing value is the
empty list, truth values are the atoms `true` and `false`, texts are atoms, and lists
and tuples are lists. Data of any other kind has no term, and the first such kind
from the left is reported.
-/
import WorkspacePolicy.Term.Printer
import WorkspacePolicy.Json.Basic

namespace WorkspacePolicy

set_option autoImplicit false

namespace Term

mutual

/-- A term as plain data: a number, a text or an array of such. -/
def toJson : Term → Json
  | .number value => .number value
  | .string text => .string text
  | .variable name => .string name
  | .compound name [] => if name = nilName then .array [] else .string name
  | .compound name [item, rest] =>
    if name = cellName ∧ (items? rest).isSome then .array (toJson item :: restToJson rest)
    else .string (Term.compound name [item, rest]).text
  | .compound name (arg :: args) => .string (Term.compound name (arg :: args)).text
termination_by structural t => t

/-- The items of a list as plain data. -/
def restToJson : Term → List Json
  | .compound _ [item, rest] => toJson item :: restToJson rest
  | _ => []
termination_by structural t => t

end

end Term

/-- A value of the calling program. -/
inductive Value where
  | none
  | bool (value : Bool)
  | number (value : Number)
  | text (value : String)
  | list (items : List Value)
  | tuple (items : List Value)
  | term (value : Term)
  /-- A value of a kind that no term stands for, with the name of the kind. -/
  | foreign (kind : String)
  deriving Inhabited

namespace Value

/-- The kind of a value that has no term. -/
structure Unsupported where
  kind : String
  deriving DecidableEq, Repr

def Unsupported.message (e : Unsupported) : String :=
  s!"Cannot convert {e.kind} to a term"

mutual

/-- A value as a term. -/
def toTerm? : Value → Except Unsupported Term
  | .none => .ok .nil
  | .bool value => .ok (.atom (if value then "true" else "false"))
  | .number value => .ok (.number value)
  | .text value => .ok (.atom value)
  | .list items => (itemsToTerms? items).map .ofItems
  | .tuple items => (itemsToTerms? items).map .ofItems
  | .term value => .ok value
  | .foreign kind => .error ⟨kind⟩
termination_by structural value => value

/-- The items of a list as terms, from left to right. -/
def itemsToTerms? : List Value → Except Unsupported (List Term)
  | [] => .ok []
  | item :: items =>
    match toTerm? item with
    | .error e => .error e
    | .ok t => (itemsToTerms? items).map (t :: ·)
termination_by structural items => items

end

end Value

end WorkspacePolicy
