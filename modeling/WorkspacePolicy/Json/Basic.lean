/-
# Json.Basic — JSON values

An object is a list of members in document order. Objects that a reader builds hold
each key once; the type itself allows repeated keys.
-/
import WorkspacePolicy.Entries
import WorkspacePolicy.Number.Basic

namespace WorkspacePolicy

set_option autoImplicit false

/-- A JSON value; numbers are whole numbers or doubles. -/
inductive Json where
  | null
  | bool (value : Bool)
  | number (value : Number)
  | string (value : String)
  | array (items : List Json)
  | object (members : List (String × Json))
  deriving Inhabited

namespace Json

/-- Absent, `null`, `false`, zero, or an empty text, array or object. -/
def isEmpty : Json → Bool
  | .null => true
  | .bool value => !value
  | .number value => value.isZero
  | .string value => value.isEmpty
  | .array items => items.isEmpty
  | .object members => members.isEmpty

end Json

end WorkspacePolicy
