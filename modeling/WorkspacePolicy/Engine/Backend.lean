/-
# Engine.Backend — both engines side by side

The engine behind the bridge is the built-in one. A scripted engine may stand beside
it; each has a state of its own.
-/
import WorkspacePolicy.Engine.Bridge
import WorkspacePolicy.Engine.Scripted

namespace WorkspacePolicy

set_option autoImplicit false

/-- The states of both engines. -/
structure Backend where
  scripted : Scripted.State
  bridge : Bridge.State

namespace Backend

/-- Nothing has happened, and the other side of the bridge will give these replies. -/
def initial (replies : List Bridge.Reply) : Backend :=
  ⟨.initial, .initial replies⟩

/-- The engine that plays a script. -/
def scriptedEngine (script : Script) : Engine Backend :=
  (Scripted.engine script).onPart Backend.scripted fun s backend =>
    { backend with scripted := s }

/-- The engine behind the bridge. -/
def bridgeEngine : Engine Backend :=
  Bridge.engine.onPart Backend.bridge fun s backend => { backend with bridge := s }

/-- The registry with the built-in engine. -/
def registry : Registry (Engine Backend) := .ofBuiltIn bridgeEngine

end Backend

end WorkspacePolicy
