/-
# Diagnosis.Basic — errors of the logic engine

A diagnosis is what a failure of the engine means: its kind, a summary, the contexts
that were added to it, and the place that it concerns as far as it is known. What an
error term says about places and contexts is a *reading*: a number, a text, a list, a
single position, or a diagnosis.
-/
import WorkspacePolicy.Term.Data
import WorkspacePolicy.Text.Quoted

namespace WorkspacePolicy

set_option autoImplicit false

namespace Diagnosis

/-- The kinds of failure. `invalidRule` is a conclusion that breaks the rules for results. -/
inductive Kind where
  | syntaxError
  | existence
  | instantiation
  | unknown
  | invalidRule
  deriving DecidableEq, Repr

/-- The three things that a position may tell. -/
inductive PositionKey where
  | line
  | column
  | found
  deriving DecidableEq, Repr

def PositionKey.text : PositionKey → String
  | .line => "line"
  | .column => "column"
  | .found => "found"

/-- The word for a kind. -/
def Kind.text : Kind → String
  | .syntaxError => "syntax"
  | .existence => "existence"
  | .instantiation => "instantiation"
  | .unknown => "unknown"
  | .invalidRule => "invalid_rule"

/-- The name of the class of errors of a kind. -/
def Kind.className : Kind → String
  | .syntaxError => "LogicSyntaxError"
  | .existence => "LogicExistenceError"
  | .instantiation => "LogicInstantiationError"
  | .unknown => "LogicUnknownError"
  | .invalidRule => "InvalidRuleError"

end Diagnosis

/-- A failure of the engine, with places of type `ρ`. -/
structure Diagnosis (ρ : Type) where
  kind : Diagnosis.Kind
  summary : String
  /-- The texts added after the summary, in order. -/
  notes : List String
  line : Option ρ
  column : Option ρ
  found : Option ρ

/-- What an error term says. -/
inductive Reading where
  | number (value : Number)
  | text (value : String)
  | list (items : List Reading)
  | position (key : Diagnosis.PositionKey) (value : Reading)
  | error (diagnosis : Diagnosis Reading)
  deriving Inhabited

/-- A failure of the engine. -/
abbrev LogicError := Diagnosis Reading

namespace Diagnosis

variable {ρ : Type}

/-- A diagnosis without contexts and places. -/
def ofSummary (kind : Kind) (summary : String) : Diagnosis ρ :=
  ⟨kind, summary, [], none, none, none⟩

/-- The summary with everything that was added to it. -/
def message (d : Diagnosis ρ) : String :=
  d.summary ++ String.join d.notes

/-- The diagnosis with one more text after its message. -/
def addNote (d : Diagnosis ρ) (note : String) : Diagnosis ρ :=
  { d with notes := d.notes ++ [note] }

/-- Sets one part of the place. -/
def setPosition (d : Diagnosis ρ) (key : PositionKey) (value : ρ) : Diagnosis ρ :=
  match key with
  | .line => { d with line := some value }
  | .column => { d with column := some value }
  | .found => { d with found := some value }

end Diagnosis

namespace Reading

mutual

/-- A reading inside a list or a position: texts are quoted, and a diagnosis is the name of
its class with its summary. -/
def nested : Reading → String
  | .number value => value.text
  | .text value => Text.quoted value
  | .list items => "[" ++ nestedItems items ++ "]"
  | .position key value => "\x7b" ++ Text.quoted key.text ++ ": " ++ nested value ++ "\x7d"
  | .error diagnosis => diagnosis.kind.className ++ "(" ++ Text.quoted diagnosis.summary ++ ")"
termination_by structural r => r

/-- The items of a list, separated by commas. -/
def nestedItems : List Reading → String
  | [] => ""
  | item :: items => nested item ++ nestedRest items
termination_by structural items => items

/-- The items of a list after the first one. -/
def nestedRest : List Reading → String
  | [] => ""
  | item :: items => ", " ++ nested item ++ nestedRest items
termination_by structural items => items

end

/-- A reading as it stands in a message: a text is shown as it is and a diagnosis by its
message. -/
def display : Reading → String
  | .number value => value.text
  | .text value => value
  | .error diagnosis => diagnosis.message
  | .list items => nested (.list items)
  | .position key value => nested (.position key value)

end Reading

end WorkspacePolicy
