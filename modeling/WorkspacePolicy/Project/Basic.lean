/-
# Project.Basic — workspaces and projects

A workspace is a package of the project, known by its path from the root; the root
itself is `.`. A workspace whose manifest has no name is called after its directory.
-/
import WorkspacePolicy.Project.Configuration
import WorkspacePolicy.Project.Manifest

namespace WorkspacePolicy

set_option autoImplicit false

/-- A package of a project. -/
structure Workspace where
  /-- The path from the root of the project, `.` for the root. -/
  place : String
  manifest : Manifest
  ident : Ident

namespace Workspace

/-- The name of a workspace whose manifest gives none. -/
def anonymousIdent (place : String) : Ident :=
  if place = "." then ⟨none, "root-workspace"⟩
  else ⟨none, s!"{Path.lastName place}-workspace"⟩

/-- A workspace with the name that its manifest gives, if it does. -/
def ofManifest (place : String) (manifest : Manifest) : Workspace :=
  ⟨place, manifest, manifest.name.getD (anonymousIdent place)⟩

end Workspace

/-- A project with its settings and workspaces. -/
structure Project where
  root : Path
  configuration : Configuration
  workspaces : List Workspace

namespace Project

/-- The workspace at a path from the root. If several share the path, the last one counts. -/
def workspaceAt? (project : Project) (place : String) : Option Workspace :=
  project.workspaces.findRev? (·.place == place)

/-- The message for a path at which no workspace is. -/
def unknownPlaceMessage (place : String) : String :=
  s!"Workspace not found ({place})"

end Project

end WorkspacePolicy
