/-
# Engine.Bridge.Reply — what the bridge answers

A goal of the bridge is true or not; a true one may bind outputs. An output is a list
whose first item is a tag and whose second item belongs to it. Terms are lists as
well: `num`, `str`, `var` and `atom` with one item, and `term` with a name and a list
of arguments.
-/
import WorkspacePolicy.Json.Shown
import WorkspacePolicy.Term.Basic

namespace WorkspacePolicy.Bridge

set_option autoImplicit false

/-- The answer to a goal. -/
structure Reply where
  succeeded : Bool
  outputs : List (String × Json)
  deriving Inhabited

/-- What is wrong with an answer of the bridge. -/
inductive Fault where
  /-- The goal is not true. -/
  | goalFailed (goal : String)
  /-- An output is not bound. -/
  | unbound (output : String)
  /-- A list ends before an item that has to be there. -/
  | tooShort
  /-- A binding is not a pair of a name and a term, but a list of another length. -/
  | notAPair (length : Nat)
  /-- A value is no list. -/
  | notAList (data : Json)
  /-- A list has no tag of a term. -/
  | unknownTerm (data : Json)

def Fault.message : Fault → String
  | .goalFailed goal => s!"Bridge goal failed: {goal}"
  | .unbound output => output
  | .tooShort => "list index out of range"
  | .notAPair length =>
    if length < 2 then s!"not enough values to unpack (expected 2, got {length})"
    else "too many values to unpack (expected 2)"
  | .notAList data => s!"not a list: {data.shown}"
  | .unknownTerm data => s!"Unexpected term encoding from bridge: {data.shown}"

/-- The items of a list. -/
def items (data : Json) : Except Fault (List Json) :=
  match data with
  | .array items => .ok items
  | _ => .error (.notAList data)

/-- The item of a list at an index. -/
def item (data : Json) (n : Nat) : Except Fault Json := do
  match (← items data)[n]? with
  | some value => return value
  | none => throw .tooShort

/-- The list starts with the given tag. -/
def hasTag (tag : String) (data : Json) : Except Fault Bool := do
  match ← item data 0 with
  | .string s => return s == tag
  | _ => return false

mutual

/-- The term that a list stands for. -/
def decode : Json → Except Fault Term
  | .array [] => .error .tooShort
  | .array (.string tag :: rest) =>
    if tag = "term" then
      match rest with
      | .string name :: .array args :: _ => (decodeAll args).map (.compound name)
      | [] | [_] => .error .tooShort
      | _ => .error (.unknownTerm (.array (.string tag :: rest)))
    else
      match rest with
      | [] =>
        if tag = "num" ∨ tag = "str" ∨ tag = "var" ∨ tag = "atom" then .error .tooShort
        else .error (.unknownTerm (.array [.string tag]))
      | .number value :: more =>
        if tag = "num" then .ok (.number value)
        else .error (.unknownTerm (.array (.string tag :: .number value :: more)))
      | .string text :: more =>
        if tag = "str" then .ok (.string text)
        else if tag = "var" then .ok (.variable text)
        else if tag = "atom" then .ok (.atom text)
        else .error (.unknownTerm (.array (.string tag :: .string text :: more)))
      | _ => .error (.unknownTerm (.array (.string tag :: rest)))
  | data => .error (.unknownTerm data)
termination_by structural data => data

/-- The terms that lists stand for, from left to right. -/
def decodeAll : List Json → Except Fault (List Term)
  | [] => .ok []
  | data :: rest =>
    match decode data with
    | .error fault => .error fault
    | .ok t => (decodeAll rest).map (t :: ·)
termination_by structural items => items

end

/-- One binding: a name and a term. -/
def decodeBinding (data : Json) : Except Fault (String × Term) := do
  match ← items data with
  | [name, value] => return (name.display, ← decode value)
  | others => throw (.notAPair others.length)

/-- The bindings of an answer, from left to right. -/
def decodeBindings (data : Json) : Except Fault (List (String × Term)) := do
  (← items data).mapM decodeBinding

/-- The texts in a list. -/
def texts (data : Json) : Except Fault (List String) := do
  return (← items data).map Json.display

end WorkspacePolicy.Bridge
