/-
# Project.Configuration — the settings of a project

Two settings say where the rules of a project are and which engine evaluates them. A
setting that is absent has its default; one that is there has to be a text with more
than white space, of which the white space at both ends does not count. The place of
the rules is resolved from the root of the project.

The settings stand in a mapping in the file `.constraintsrc.yml`; a missing file, or one
whose value is empty, sets nothing.
-/
import WorkspacePolicy.Files.Tree
import WorkspacePolicy.Json.Basic
import WorkspacePolicy.Yaml.Document

namespace WorkspacePolicy

set_option autoImplicit false

/-- Where the rules are and which engine evaluates them. -/
structure Configuration where
  rules : Path
  engine : String
  deriving DecidableEq, Repr

namespace Configuration

/-- The name of the file with the settings. -/
def fileName : String := ".constraintsrc.yml"

def defaultRules : String := "constraints.pro"

def defaultEngine : String := "swi"

/-- Why there are no settings. -/
inductive Fault where
  | rulesNotText
  | engineNotText
  | nullInPath
  | unencodablePath
  | notAMapping
  | yaml (fault : Yaml.Fault)
  | file (fault : FileTree.Fault)
  deriving DecidableEq, Repr

/-- A setting as it was found. -/
inductive Setting where
  | absent
  | text (value : String)
  | other
  deriving DecidableEq, Repr

/-- The text of a setting without the white space at its ends. -/
def Setting.value? (setting : Setting) (default : String) : Option String :=
  match setting with
  | .absent => some default
  | .text value => if Text.isBlankText value then none else some (Text.trim value)
  | .other => none

/-- What is wrong with the first part of a path that cannot be a name. -/
def pathFault? (text : String) : Option Fault :=
  let names := (Path.parts text).filter fun part => !([".", ".."].contains part)
  (names.find? (!Path.isName ·)).map fun name =>
    if Path.isEncodable name then .nullInPath else .unencodablePath

/-- The settings of the project at `root`. -/
def ofSettings (root : Path) (rules engine : Setting) : Except Fault Configuration :=
  match rules.value? defaultRules with
  | none => .error .rulesNotText
  | some rules =>
    match engine.value? defaultEngine with
    | none => .error .engineNotText
    | some engine =>
      match pathFault? rules with
      | some fault => .error fault
      | none => .ok ⟨Path.resolve root rules, engine⟩

/-- A member of a JSON object as a setting. -/
def Setting.ofJson : Option Json → Setting
  | none => .absent
  | some (.string s) => .text s
  | some _ => .other

/-- The value of an entry as a setting. -/
def Setting.ofYaml : Option Yaml.Value → Setting
  | none => .absent
  | some (.text s) => .text s
  | some _ => .other

/-- The name of the setting for the place of the rules. -/
def rulesKey : String := "constraintsPath"

/-- The name of the setting for the engine. -/
def engineKey : String := "logicEngine"

/-- The settings in the members of a JSON object. -/
def ofJsonMembers (root : Path) (members : List (String × Json)) : Except Fault Configuration :=
  ofSettings root (.ofJson (Entries.find? rulesKey members))
    (.ofJson (Entries.find? engineKey members))

/-- The settings in a settings file. -/
def ofYaml (root : Path) (document : Yaml.Document) : Except Fault Configuration :=
  if document.isEmpty then ofSettings root .absent .absent
  else
    match document.rootCollection? with
    | some (.mapping entries) =>
      ofSettings root (.ofYaml (Yaml.Collection.field? rulesKey entries))
        (.ofYaml (Yaml.Collection.field? engineKey entries))
    | _ => .error .notAMapping

/-- The settings of the project at `root`. -/
def load (tree : FileTree) (root : Path) : Except Fault Configuration :=
  let place := root ++ [fileName]
  if tree.exists place then
    match tree.readText place with
    | .error fault => .error (.file fault)
    | .ok text =>
      match Yaml.read text.toList with
      | .error fault => .error (.yaml fault)
      | .ok document => ofYaml root document
  else ofSettings root .absent .absent

end Configuration

end WorkspacePolicy
