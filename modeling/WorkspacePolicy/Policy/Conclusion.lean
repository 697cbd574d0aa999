/-
# Policy.Conclusion — what rules conclude about a project

Rules may ask for a dependency of a workspace, with a range or to be absent, and for a
field of a manifest, with a value or to be absent. An answer of the engine becomes such a
conclusion when it names a workspace of the project and, for a dependency, a package
and a kind of dependency; every other answer is an invalid rule.

A workspace is named by any path that leads to it from the root of the project.

Conclusions are sorted by a list of texts. In it a missing value is marked by `1` and one
that is there by `0`, so that missing values come last where the mark stands.
-/
import WorkspacePolicy.Engine.Basic
import WorkspacePolicy.Entries
import WorkspacePolicy.Project.Basic

namespace WorkspacePolicy

set_option autoImplicit false

namespace Failure

/-- The failure for a rule whose conclusion has no meaning. -/
def invalidRule (reason : String) : Failure :=
  .logic (Diagnosis.ofSummary .invalidRule s!"Invalid rule: {reason}")

end Failure

namespace Bindings

/-- The value of a variable. -/
def value (links : Bindings) (name : String) : Except Failure Term :=
  match Entries.find? name links with
  | some term => .ok term
  | none => .error (.unboundVariable name)

/-- The value of a variable as a text, if it is there. -/
def text (links : Bindings) (name : String) : Except Failure (Option String) := do
  match (← value links name).linkText with
  | .ok text => return text
  | .error fault => throw (.unwritable fault)

/-- The value of a variable as JSON text, if it is there. -/
def json (links : Bindings) (name : String) : Except Failure (Option String) := do
  match (← value links name).linkJson with
  | .ok text => return text
  | .error fault => throw (.unwritable fault)

end Bindings

namespace Project

/-- The workspace to which a path leads from the root of the project. A text that the file system
cannot take leads nowhere. -/
def workspaceNamed? (project : Project) (path : String) : Option Workspace :=
  if !Path.isName path then none
  else
    match Path.below? project.root (Path.resolve project.root path) with
    | some names => project.workspaceAt? (Path.relativeText names)
    | none => none

/-- The workspace that a rule names. -/
def workspaceOfRule (project : Project) (path : String) : Except Failure Workspace :=
  match project.workspaceNamed? path with
  | some workspace => .ok workspace
  | none => .error (.invalidRule s!"unknown workspace {Text.quoted path}")

end Project

/-- The mark of a value in a sort key. -/
def presenceMark (value : Option String) : String :=
  if value.isNone then "1" else "0"

/-- A dependency that a workspace has to have, or must not have where the range is missing. -/
structure EnforcedDependency where
  workspace : Workspace
  ident : Ident
  range : Option String
  kind : DependencyType

namespace EnforcedDependency

/-- The query for all of them. -/
def query : String :=
  "workspace(WorkspaceCwd), dependency_type(DependencyType), " ++
    "gen_enforced_dependency(WorkspaceCwd, DependencyIdent, DependencyRange, DependencyType)."

/-- The message for a text that names no kind of dependency. -/
def invalidKindMessage (name : Option String) : String :=
  let shown := (name.map Text.quoted).getD "None"
  s!"{shown} is not a valid DependencyType"

/-- The package name that a rule gives. -/
def identOfRule (text : String) : Except Failure Ident :=
  match Ident.parse? text with
  | some ident => .ok ident
  | none => .error (.invalidRule (Ident.invalidMessage text))

/-- The kind of dependency that a rule gives. -/
def kindOfRule (name : Option String) : Except Failure DependencyType :=
  match name.bind DependencyType.ofField? with
  | some kind => .ok kind
  | none => .error (.invalidRule (invalidKindMessage name))

/-- The conclusion of an answer. -/
def ofBindings (project : Project) (links : Bindings) : Except Failure EnforcedDependency := do
  let place ← Bindings.text links "WorkspaceCwd"
  let ident ← Bindings.text links "DependencyIdent"
  let range ← Bindings.text links "DependencyRange"
  let kind ← Bindings.text links "DependencyType"
  match place, ident with
  | some place, some ident =>
    let workspace ← project.workspaceOfRule place
    let ident ← identOfRule ident
    let kind ← kindOfRule kind
    return ⟨workspace, ident, range, kind⟩
  | _, _ => throw (.invalidRule "missing workspace or dependency ident")

/-- The texts by which dependencies are sorted. -/
def sortKey (d : EnforcedDependency) : List String :=
  [presenceMark d.range, d.workspace.ident.text, d.ident.text, d.range.getD "", d.kind.field]

/-- The order of dependencies. -/
def le (a b : EnforcedDependency) : Bool :=
  Text.leNames a.sortKey b.sortKey

end EnforcedDependency

/-- A field that a manifest has to have, with its value as JSON text, or must not have where
the value is missing. -/
structure EnforcedField where
  workspace : Workspace
  path : String
  value : Option String

namespace EnforcedField

/-- The query for all of them. -/
def query : String :=
  "workspace(WorkspaceCwd), gen_enforced_field(WorkspaceCwd, FieldPath, FieldValue)."

/-- The conclusion of an answer. -/
def ofBindings (project : Project) (links : Bindings) : Except Failure EnforcedField := do
  let place ← Bindings.text links "WorkspaceCwd"
  let path ← Bindings.text links "FieldPath"
  let value ← Bindings.json links "FieldValue"
  match place, path with
  | some place, some path => return ⟨← project.workspaceOfRule place, path, value⟩
  | _, _ => throw (.invalidRule "missing workspace or field path")

/-- The texts by which fields are sorted. -/
def sortKey (f : EnforcedField) : List String :=
  [f.workspace.ident.text, f.path, presenceMark f.value, f.value.getD ""]

/-- The order of fields. -/
def le (a b : EnforcedField) : Bool :=
  Text.leNames a.sortKey b.sortKey

end EnforcedField

end WorkspacePolicy
