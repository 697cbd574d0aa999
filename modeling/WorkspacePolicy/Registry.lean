/-
# Registry — engines by name

A registry finds engines by their names. It starts with the built-in engine; an engine
that is registered under a name that is taken replaces the one before. A lookup
without a name finds the built-in engine.
-/
import WorkspacePolicy.Entries
import WorkspacePolicy.Text.Order
import WorkspacePolicy.Text.Quoted

namespace WorkspacePolicy

set_option autoImplicit false

/-- Engines, or what stands for them, by name. -/
structure Registry (α : Type) where
  entries : List (String × α)

namespace Registry

variable {α : Type}

/-- The name of the built-in engine. -/
def defaultName : String := "swi"

/-- The registry with nothing but the built-in engine. -/
def ofBuiltIn (engine : α) : Registry α := ⟨[(defaultName, engine)]⟩

/-- Puts an engine under a name. -/
def register (r : Registry α) (name : String) (engine : α) : Registry α :=
  ⟨Entries.insert name engine r.entries⟩

/-- The names in use, in ascending order. -/
def names (r : Registry α) : List String :=
  Text.sorted (r.entries.map (·.1))

/-- A name that is not in use, with those that are. -/
structure Unknown where
  name : String
  available : List String
  deriving DecidableEq, Repr

def Unknown.message (e : Unknown) : String :=
  let available := if e.available.isEmpty then "none" else ", ".intercalate e.available
  s!"Unknown logic engine: {Text.quoted e.name} (available: {available})"

/-- The name that a lookup is for; no name and the empty name are the built-in engine's. -/
def wantedName : Option String → String
  | none => defaultName
  | some name => if name.isEmpty then defaultName else name

/-- The engine under a name. -/
def find (r : Registry α) (name : Option String) : Except Unknown α :=
  match Entries.find? (wantedName name) r.entries with
  | some engine => .ok engine
  | none => .error ⟨wantedName name, r.names⟩

end Registry

end WorkspacePolicy
