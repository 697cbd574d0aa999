/-
# Term.Printer — the concrete syntax of terms

Numbers are written as they read, strings between double quotes, variables by their
name, atoms as quoted names, lists between brackets and all other compounds as a name
with its arguments in parentheses. The empty list is `[]` wherever it stands.
-/
import WorkspacePolicy.Term.Basic
import WorkspacePolicy.Term.Quote

namespace WorkspacePolicy.Term

set_option autoImplicit false

/-- One character of a string: backslash and double quote take a backslash. -/
def stringChar (c : Char) : List Char :=
  if c = '\\' ∨ c = '"' then ['\\', c] else [c]

/-- A string between double quotes. -/
def stringChars (text : List Char) : List Char :=
  '"' :: text.flatMap stringChar ++ ['"']

/-- The name of a compound before its arguments. -/
def functorChars (name : String) : List Char :=
  if isBareName name.toList then name.toList else quoteChars name.toList

mutual

/-- The text of a term. -/
def chars : Term → List Char
  | .number value => value.chars
  | .string text => stringChars text.toList
  | .variable name => name.toList
  | .compound name [] => if name = nilName then ['[', ']'] else quoteChars name.toList
  | .compound name [item, rest] =>
    if name = cellName ∧ (items? rest).isSome then
      '[' :: chars item ++ restChars rest ++ [']']
    else functorChars name ++ '(' :: chars item ++ ',' :: ' ' :: chars rest ++ [')']
  | .compound name (arg :: args) =>
    functorChars name ++ '(' :: chars arg ++ argChars args ++ [')']
termination_by structural t => t

/-- The items of a list after the first one. -/
def restChars : Term → List Char
  | .compound _ [item, rest] => ',' :: ' ' :: chars item ++ restChars rest
  | _ => []
termination_by structural t => t

/-- The arguments of a compound after the first one. -/
def argChars : List Term → List Char
  | [] => []
  | arg :: args => ',' :: ' ' :: chars arg ++ argChars args
termination_by structural args => args

end

/-- The text of a term. -/
def text (t : Term) : String :=
  String.ofList t.chars

end WorkspacePolicy.Term
