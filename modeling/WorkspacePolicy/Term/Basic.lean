/-
# Term.Basic — terms of the logic language

A term is a number, a string, an unbound variable, or a compound: a name with
arguments. A compound without arguments is an atom. Two atoms stand for absence: the
empty list `[]` and `null`.

A list is a chain of cells `.` with two arguments, the item and the rest, that ends
in the empty list. `Term.ofItems` builds the chain and `Term.items?` reads it; a
chain with any other end is no list.

Terms nest to any depth here: the limit that a stack sets to recursion over them is left out.
-/
import WorkspacePolicy.Number.Basic

namespace WorkspacePolicy

set_option autoImplicit false

/-- A term. -/
inductive Term where
  | number (value : Number)
  | string (text : String)
  | variable (name : String)
  | compound (name : String) (args : List Term)
  deriving Inhabited

namespace Term

/-- A name without arguments. -/
def atom (name : String) : Term := .compound name []

/-- The name of the empty list. -/
def nilName : String := "[]"

/-- The name of a list cell. -/
def cellName : String := "."

/-- The empty list. -/
def nil : Term := atom nilName

/-- The atom for a missing value. -/
def null : Term := atom "null"

/-- A list cell: an item before the rest. -/
def cell (item rest : Term) : Term := .compound cellName [item, rest]

/-- The list of some items. -/
def ofItems (items : List Term) : Term :=
  items.foldr cell nil

/-- The items of a list; `none` for every term that is not a list. -/
def items? : Term → Option (List Term)
  | .compound name [] => if name = nilName then some [] else none
  | .compound name [item, rest] =>
    if name = cellName then (items? rest).map (item :: ·) else none
  | _ => none
termination_by structural t => t

/-- The term is the atom `null`. -/
def isNull : Term → Bool
  | .compound name [] => name == "null"
  | _ => false

/-- A name and a number of arguments. -/
structure Indicator where
  name : String
  arity : Nat
  deriving DecidableEq, Repr

/-- The text `name/arity`. -/
def Indicator.text (i : Indicator) : String :=
  s!"{i.name}/{i.arity}"

/-- The name and the number of arguments of a compound. -/
def indicator? : Term → Option Indicator
  | .compound name args => some ⟨name, args.length⟩
  | _ => none

end Term

end WorkspacePolicy
