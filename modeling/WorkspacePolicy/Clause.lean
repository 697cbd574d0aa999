/-
# Clause — lines of program text

A clause is the text of a term with a period and a line feed. A *fact* is a clause
whose arguments are data. A *never* clause has a body that always fails: it defines
its predicate without adding a solution.
-/
import WorkspacePolicy.Term.Data

namespace WorkspacePolicy.Clause

set_option autoImplicit false

/-- The characters of a clause. -/
def chars (head : Term) : List Char :=
  head.chars ++ ['.', '\n']

/-- The clause of a term. -/
def text (head : Term) : String :=
  String.ofList (chars head)

/-- The clause `name(args...).` -/
def ofTerms (name : String) (args : List Term) : String :=
  text (.compound name args)

/-- The clause `name(args...).`, with data for arguments. -/
def fact (name : String) (args : List Value) : Except Value.Unsupported String :=
  (Value.itemsToTerms? args).map (ofTerms name)

/-- A clause for `name` with `arity` arguments whose body fails. A negative arity leaves the
parentheses empty. -/
def never (name : String) (arity : Int) : String :=
  if arity = 0 then s!"{name} :- false.\n"
  else
    let placeholders := ", ".intercalate (List.replicate arity.toNat "_")
    s!"{name}({placeholders}) :- false.\n"

end WorkspacePolicy.Clause
