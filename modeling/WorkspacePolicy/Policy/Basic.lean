/-
# Policy.Basic — the rules of a project

A policy is a project with the rules that are written for it and the engine that
evaluates them. The rules are the text of a file; a project without that file has no
rules. A session of a policy has the linkage of the project for its linkage, and for its
source the facts about the project, the rules and the declarations.
-/
import WorkspacePolicy.Project.Database
import WorkspacePolicy.Session.Basic

namespace WorkspacePolicy

set_option autoImplicit false

/-- A project with its rules. The engine may be one that is not known; that is a failure only
where a session is needed. -/
structure Policy (σ : Type) where
  project : Project
  rules : String
  engine : Except Registry.Unknown (Engine σ)

namespace Policy

variable {σ : Type}

/-- The rules of a project. -/
def readRules (tree : FileTree) (project : Project) : Except FileTree.Fault String := do
  match ← tree.lookUp project.configuration.rules with
  | some _ => tree.readText project.configuration.rules
  | none => return ""

/-- The policy of a project. -/
def load (tree : FileTree) (project : Project) (engine : Except Registry.Unknown (Engine σ)) :
    Except FileTree.Fault (Policy σ) :=
  match readRules tree project with
  | .ok rules => .ok ⟨project, rules, engine⟩
  | .error fault => .error fault

/-- The engine under the name that the settings of a project give. -/
def configuredEngine (registry : Registry (Engine σ)) (project : Project) :
    Except Registry.Unknown (Engine σ) :=
  registry.find (some project.configuration.engine)

/-- Facts, rules and declarations. -/
def fullSource (policy : Policy σ) : String :=
  s!"{policy.project.database}\n{policy.rules}\n{Project.declarations}"

/-- A session with the program of the policy. -/
def createSession (policy : Policy σ) : Action (World σ) (Session σ) := do
  match policy.engine with
  | .error fault => throw (.unknownEngine fault)
  | .ok engine =>
    let session ← Session.start engine
    session.init policy.project.linkage policy.fullSource
    return session

end Policy

end WorkspacePolicy
