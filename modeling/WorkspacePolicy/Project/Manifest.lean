/-
# Project.Manifest — package manifests

A manifest is a JSON object. Its name is a package name where it is a text at all, its
version counts only as a text, and each of the three dependency fields is an object
of package names with a range or `null`; an absent or empty field has no entries.

Reading stops at the first fault in the order name, `dependencies`,
`devDependencies`, `peerDependencies`, and in document order inside a field, where the
range of an entry is looked at before its name.
-/
import WorkspacePolicy.Json.Basic
import WorkspacePolicy.Project.Ident

namespace WorkspacePolicy

set_option autoImplicit false

/-- The three kinds of dependency. -/
inductive DependencyType where
  | regular
  | development
  | peer
  deriving DecidableEq, Repr

namespace DependencyType

/-- The kinds in the order in which they are listed. -/
def all : List DependencyType := [.regular, .development, .peer]

/-- The name of the manifest field of a kind. -/
def field : DependencyType → String
  | .regular => "dependencies"
  | .development => "devDependencies"
  | .peer => "peerDependencies"

/-- The kind with the given field name. -/
def ofField? (name : String) : Option DependencyType :=
  all.find? fun kind => kind.field == name

end DependencyType

/-- A dependency: a package name and the range asked for. -/
structure Dependency where
  ident : Ident
  range : Option String
  deriving DecidableEq, Repr

/-- A package manifest, with the object it was read from. -/
structure Manifest where
  name : Option Ident
  version : Option String
  dependencies : DependencyType → List Dependency
  fields : List (String × Json)

namespace Manifest

/-- What is wrong with a manifest. -/
inductive Fault where
  | invalidIdent (text : String)
  | notAnObject (kind : DependencyType)
  | invalidRange (entry : String) (kind : DependencyType)
  deriving DecidableEq, Repr

def Fault.message : Fault → String
  | .invalidIdent text => Ident.invalidMessage text
  | .notAnObject kind => s!"{kind.field} must be an object"
  | .invalidRange entry kind => s!"Invalid range for {entry} in {kind.field}"

/-- A package name, or the fault of a text that is none. -/
def readIdent (text : String) : Except Fault Ident :=
  match Ident.parse? text with
  | some ident => .ok ident
  | none => .error (.invalidIdent text)

/-- The name of a manifest. -/
def readName (fields : List (String × Json)) : Except Fault (Option Ident) :=
  match Entries.find? "name" fields with
  | some (.string text) => (readIdent text).map some
  | _ => .ok none

/-- The version of a manifest. -/
def readVersion (fields : List (String × Json)) : Option String :=
  match Entries.find? "version" fields with
  | some (.string text) => some text
  | _ => none

/-- The entries of a dependency field. -/
def readEntries (kind : DependencyType) : List (String × Json) → Except Fault (List Dependency)
  | [] => .ok []
  | (entry, range) :: rest => do
    let range ←
      match range with
      | .null => Except.ok none
      | .string text => Except.ok (some text)
      | _ => Except.error (.invalidRange entry kind)
    let ident ← readIdent entry
    let others ← readEntries kind rest
    return ⟨ident, range⟩ :: others

/-- The dependencies of one kind. -/
def readKind (fields : List (String × Json)) (kind : DependencyType) :
    Except Fault (List Dependency) :=
  match Entries.find? kind.field fields with
  | none => .ok []
  | some value =>
    if value.isEmpty then .ok []
    else
      match value with
      | .object entries => readEntries kind entries
      | _ => .error (.notAnObject kind)

/-- The manifest that the members of a JSON object make. -/
def ofFields (fields : List (String × Json)) : Except Fault Manifest := do
  let name ← readName fields
  let regular ← readKind fields .regular
  let development ← readKind fields .development
  let peer ← readKind fields .peer
  return {
    name
    version := readVersion fields
    dependencies := fun
      | .regular => regular
      | .development => development
      | .peer => peer
    fields }

end Manifest

end WorkspacePolicy
