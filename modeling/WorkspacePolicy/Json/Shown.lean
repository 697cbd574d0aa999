/-
# Json.Shown — JSON values in messages

In a message a missing value is `None`, truth values are `True` and `False`, texts
stand between quotes and numbers are written as they read.
-/
import WorkspacePolicy.Json.Basic
import WorkspacePolicy.Text.Quoted

namespace WorkspacePolicy.Json

set_option autoImplicit false

mutual

/-- A value as messages show it. -/
def shown : Json → String
  | .null => "None"
  | .bool value => if value then "True" else "False"
  | .number value => value.text
  | .string value => Text.quoted value
  | .array [] => "[]"
  | .array (item :: items) => "[" ++ shown item ++ shownItems items ++ "]"
  | .object [] => "\x7b\x7d"
  | .object ((key, value) :: members) =>
    "\x7b" ++ Text.quoted key ++ ": " ++ shown value ++ shownMembers members ++ "\x7d"
termination_by structural value => value

/-- The items after the first one. -/
def shownItems : List Json → String
  | [] => ""
  | item :: items => ", " ++ shown item ++ shownItems items
termination_by structural items => items

/-- The members after the first one. -/
def shownMembers : List (String × Json) → String
  | [] => ""
  | (key, value) :: members =>
    ", " ++ Text.quoted key ++ ": " ++ shown value ++ shownMembers members
termination_by structural members => members

end

/-- A value in the middle of a message: a text without quotes. -/
def display : Json → String
  | .string value => value
  | value => shown value

end WorkspacePolicy.Json
