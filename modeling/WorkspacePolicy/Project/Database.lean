/-
# Project.Database — the project as program text

Three pieces of program text are made from a project. The *database* holds facts about
the workspaces and their dependencies, the *linkage* holds every field of the manifests
under its path, and the *declarations* define the predicates that rules may add to.
A predicate that may have no facts is closed by a clause that never holds.

The path of a field is its key, or the path of the object around it, a period and its
key; the period is left out where the path before it is empty.
-/
import WorkspacePolicy.Clause
import WorkspacePolicy.Json.Writer
import WorkspacePolicy.Project.Basic

namespace WorkspacePolicy

set_option autoImplicit false

namespace Term

/-- A text as an atom; a missing one is the empty list. -/
def ofText? : Option String → Term
  | none => nil
  | some text => atom text

/-- The value of a manifest field as a term: collections as the atom of their JSON text. -/
def ofField : Json → Term
  | .null => null
  | .bool value => atom (if value then "true" else "false")
  | .number value => .number value
  | .string text => atom text
  | value => atom (value.text .compact)

end Term

namespace Project

/-- The predicates of the database, with their numbers of arguments. -/
def databasePredicates : List (String × Nat) :=
  [("workspace", 1), ("workspace_ident", 2), ("workspace_version", 2),
    ("workspace_has_dependency", 4)]

/-- The predicates that rules may define, with their numbers of arguments. -/
def rulePredicates : List (String × Nat) :=
  [("gen_enforced_dependency", 4), ("gen_enforced_field", 3)]

/-- The clauses that define predicates without adding solutions. -/
def nevers (predicates : List (String × Nat)) : String :=
  String.join (predicates.map fun p => Clause.never p.1 p.2)

/-- The term of a dependency. -/
def dependencyTerm (place : String) (kind : DependencyType) (d : Dependency) : Term :=
  .compound "workspace_has_dependency"
    [.atom place, .atom d.ident.text, .ofText? d.range, .atom kind.field]

/-- The terms of the dependencies of a workspace. -/
def dependencyTerms (w : Workspace) : List Term :=
  DependencyType.all.flatMap fun kind =>
    (w.manifest.dependencies kind).map (dependencyTerm w.place kind)

/-- The terms of the facts about a workspace. -/
def workspaceTerms (w : Workspace) : List Term :=
  [.compound "workspace" [.atom w.place],
    .compound "workspace_ident" [.atom w.place, .atom w.ident.text],
    .compound "workspace_version" [.atom w.place, .ofText? w.manifest.version]] ++
    dependencyTerms w

/-- The terms of all facts of the database. -/
def databaseTerms (project : Project) : List Term :=
  DependencyType.all.map (fun kind => .compound "dependency_type" [.atom kind.field]) ++
    project.workspaces.flatMap workspaceTerms

/-- The facts about the project. -/
def database (project : Project) : String :=
  String.join (project.databaseTerms.map Clause.text) ++ nevers databasePredicates

/-- The clauses after the rules, which define what rules may add to. -/
def declarations : String := nevers rulePredicates

/-- The path of a key inside the object at a path. -/
def fieldPath (above key : String) : String :=
  if above.isEmpty then key else s!"{above}.{key}"

mutual

/-- The fields inside a value, with their paths. -/
def fieldsIn (above : String) : Json → List (String × Json)
  | .object members => memberFields above members
  | _ => []
termination_by structural value => value

/-- The fields of an object, each before the fields inside it. -/
def memberFields (above : String) : List (String × Json) → List (String × Json)
  | [] => []
  | (key, value) :: members =>
    let path := fieldPath above key
    (path, value) :: fieldsIn path value ++ memberFields above members
termination_by structural members => members

end

/-- The terms of the manifest fields of a workspace. -/
def fieldTerms (w : Workspace) : List Term :=
  (memberFields "" w.manifest.fields).map fun field =>
    .compound "workspace_field" [.atom w.place, .atom field.1, .ofField field.2]

/-- The fields of all manifests. -/
def linkage (project : Project) : String :=
  String.join ((project.workspaces.flatMap fieldTerms).map Clause.text) ++
    Clause.never "workspace_field" 3

end Project

end WorkspacePolicy
