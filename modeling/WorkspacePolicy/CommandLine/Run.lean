/-
# CommandLine.Run — the commands

`source` prints the rules of a project or the whole program, `query` the rows of a query
and `enforced` all conclusions of the rules. Results are printed as JSON or as tables,
and nothing of them is printed before all of them are known. The exit code is 0 for a
result, 1 for an error and 2 for arguments of the wrong form.
-/
import WorkspacePolicy.CommandLine.Arguments
import WorkspacePolicy.CommandLine.Table
import WorkspacePolicy.CommandLine.Trouble
import WorkspacePolicy.Json.Writer
import WorkspacePolicy.Policy.Evaluation
import WorkspacePolicy.Policy.RowSequence

namespace WorkspacePolicy.CommandLine

set_option autoImplicit false

/-- What a call leaves behind: its exit code, what it has printed, and a trouble that was not
expected. -/
structure Report where
  exitCode : Nat
  out : String
  err : String
  raised : Option Trouble

/-- Where a call takes place: the files, the current directory and the engines. -/
structure Place (σ : Type) where
  tree : FileTree
  directory : Path
  registry : Registry (Engine σ)

namespace Report

/-- A result. -/
def success (out : String) : Report := ⟨0, out, "", none⟩

/-- A usage error. -/
def usage : Report := ⟨2, "", "Usage: workspace-constraints [OPTIONS] COMMAND [ARGS]...\n", none⟩

/-- A trouble after `out` has been printed. -/
def trouble (out : String) (t : Trouble) : Report :=
  match t.report? with
  | some message => ⟨1, out, Terminal.dropSequences s!"Error: {message}\n", none⟩
  | none => ⟨1, out, "", some t⟩

/-- The end of a command whose evaluation failed. An error of the logic is printed by itself. -/
def failure (f : Failure) : Report :=
  match f with
  | .logic error =>
    match Markup.plain error.message with
    | .ok shown => ⟨1, "", Terminal.message shown, none⟩
    | .error fault => .trouble "" (.markup fault)
  | f => .trouble "" (.failure f)

/-- The report on texts that are printed one by one after `out`, up to the first that has a fault
or cannot be written. -/
def printing (out : String) : List (Except Markup.Fault String) → Report
  | [] => .success out
  | .error fault :: _ => .trouble out (.markup fault)
  | .ok text :: texts =>
    if Text.isEncodable text then printing (out ++ text) texts else .trouble out .unencodable

/-- What the two outputs hold at last. -/
def captured (report : Report) : Report :=
  { report with out := Terminal.output report.out, err := Terminal.errorOutput report.err }

end Report

/-- The text of the version. -/
def versionText : String := "workspace-constraints, version 0.1.0\n"

/-- The text of the help. -/
def helpText : String :=
  "Usage: workspace-constraints [OPTIONS] COMMAND [ARGS]...\n\nCommands: enforced, query, source\n"

/-! ## Results as text -/

/-- A missing value in a table. -/
def cellText (value : Option String) : String := value.getD "null"

/-- A value in JSON. -/
def cellJson : Option String → Json
  | none => .null
  | some value => .string value

/-- A row as one line of JSON. -/
def rowLine (row : Row) : String :=
  Json.text .line (.object (row.map fun cell => (cell.1, cellJson cell.2))) ++ "\n"

/-- Rows as lines of JSON. -/
def rowLines (rows : List Row) : String :=
  String.join (rows.map rowLine)

/-- The variables of rows, in order of first appearance. -/
def columns (rows : List Row) : List String :=
  rows.foldl (fun names row =>
    row.foldl (fun names cell => if names.contains cell.1 then names else names ++ [cell.1]) names)
    []

/-- Rows as a table with a column for each variable. -/
def rowTable (rows : List Row) : Except Markup.Fault Table := do
  let names := columns rows
  let cells (row : Row) : List String :=
    names.map fun name => cellText ((Entries.find? name row).bind id)
  return ⟨none, ← names.mapM Markup.plain, rows.map cells⟩

/-- A dependency in JSON. -/
def dependencyJson (d : EnforcedDependency) : Json :=
  .object [("workspace", .string d.workspace.place), ("dependencyIdent", .string d.ident.text),
    ("dependencyRange", cellJson d.range), ("dependencyType", .string d.kind.field)]

/-- A field in JSON. -/
def fieldJson (f : EnforcedField) : Json :=
  .object [("workspace", .string f.workspace.place), ("fieldPath", .string f.path),
    ("fieldValue", cellJson f.value)]

/-- Conclusions as JSON text. -/
def conclusionsText (c : Conclusions) : String :=
  Json.text .indented (.object
    [("enforcedDependencies", .array (c.dependencies.map dependencyJson)),
      ("enforcedFields", .array (c.fields.map fieldJson))]) ++ "\n"

/-- The table of dependencies. A fault in its first column comes before any in its second. -/
def dependencyTable (c : Conclusions) : Except Markup.Fault Table := do
  let workspaces ← c.dependencies.mapM fun d => Markup.plain d.workspace.ident.text
  let dependencies ← c.dependencies.mapM fun d => Markup.plain d.ident.text
  let row (d : EnforcedDependency) (names : String × String) : List String :=
    [names.1, names.2, cellText d.range, d.kind.field]
  return ⟨some "Enforced dependencies", ["Workspace", "Dependency", "Range", "Type"],
    c.dependencies.zipWith row (workspaces.zip dependencies)⟩

/-- The table of fields. -/
def fieldTable (c : Conclusions) : Except Markup.Fault Table := do
  let row (f : EnforcedField) : Except Markup.Fault (List String) := do
    return [← Markup.plain f.workspace.ident.text, f.path, cellText f.value]
  return ⟨some "Enforced fields", ["Workspace", "Field", "Value"], ← c.fields.mapM row⟩

/-- The line after the tables. -/
def countLine (project : Project) (c : Conclusions) : String :=
  s!"{project.workspaces.length} workspace(s), " ++
    s!"{c.dependencies.length} enforced dependency(ies), {c.fields.length} enforced field(s)\n"

/-! ## Commands -/

variable {σ : Type}

/-- The rules of the project at `root`, or its whole program. -/
def runSource (place : Place σ) (root : Path) (full : Bool) : Report :=
  match Project.load place.tree root with
  | .error fault => .trouble "" (.project fault)
  | .ok project =>
    match Policy.load place.tree project (Policy.configuredEngine place.registry project) with
    | .error fault => .trouble "" (.rules fault)
    | .ok policy => .printing "" [.ok (if full then policy.fullSource else policy.rules)]

/-- The policy of the project at `root`, with an engine that is there. An engine name that is
empty does not count. -/
def loadPolicy (place : Place σ) (root : Path) (engine : Option String) :
    Except Trouble (Policy σ) :=
  match Project.load place.tree root with
  | .error fault => .error (.project fault)
  | .ok project =>
    let name := (engine.filter fun name => !name.isEmpty).getD project.configuration.engine
    match place.registry.find (some name) with
    | .error fault => .error (.failure (.unknownEngine fault))
    | .ok engine =>
      match Policy.load place.tree project (.ok engine) with
      | .error fault => .error (.rules fault)
      | .ok policy => .ok policy

/-- The report on the rows of a query. -/
def reportRows (json : Bool) (drained : Drained Row) : Report :=
  match drained.failure with
  | some failure => .failure failure
  | none =>
    if json then .success (rowLines drained.items)
    else if drained.items.isEmpty then ⟨0, "", "No answers\n", none⟩
    else .printing "" [(rowTable drained.items).map Table.text]

/-- The report on conclusions. -/
def reportConclusions (json : Bool) (project : Project) :
    Except Failure Conclusions → Report
  | .error failure => .failure failure
  | .ok conclusions =>
    if json then .success (conclusionsText conclusions)
    else
      .printing "" [(dependencyTable conclusions).map Table.text,
        (fieldTable conclusions).map Table.text, .ok (countLine project conclusions)]

/-- Runs a command in the project at `root`. -/
def runCommand (place : Place σ) (root : Path) (engine : Option String) :
    Command → StateM (World σ) Report
  | .source full => return runSource place root full
  | .query text json =>
    match loadPolicy place root engine with
    | .error t => return .trouble "" t
    | .ok policy => do
      let (drained, _) ← (RowSequence.ofQuery policy text [] none).drain
      return reportRows json drained
  | .enforced json =>
    match loadPolicy place root engine with
    | .error t => return .trouble "" t
    | .ok policy => do
      return reportConclusions json policy.project (← policy.evaluate.outcome)

/-- The directory that a text names, if it is there. -/
def directoryAt? (place : Place σ) (text : String) : Option Path := do
  let start := if Path.isAbsoluteText text then [] else place.directory
  let names := (Path.parts text).filter fun part => part != "" && part != "."
  if text.isEmpty then none
  else
    let root ← place.tree.walk? start names
    if place.tree.isDirectoryAt root then some root else none

/-- The text that is wished for. -/
def wished : Wish → Report
  | .version => .success versionText
  | .help => .success helpText

/-- The directory of the project of a call, the current one unless one is named; or the report
with which the options of the program end the call. -/
def Call.root (place : Place σ) (call : Call) : Except Report Path :=
  match call.wish, call.directory with
  | some wish, _ => .error (wished wish)
  | none, none => .ok place.directory
  | none, some text =>
    if text.toList.contains '\x00' then .error (.trouble "" .nullInDirectory)
    else
      match directoryAt? place text with
      | some root => .ok root
      | none => .error .usage

/-- The report on arguments that begin with the name of no command. What stands there may be
options of the program after two hyphens, which count only as far as they end the call. -/
def reportUnknown (place : Place σ) (args : List String) : Report :=
  match Call.parse args with
  | none => .usage
  | some call =>
    match call.root place with
    | .error report => report
    | .ok _ => .usage

/-- Runs a call whose options of the program are in order. -/
def runCall (place : Place σ) (call : Call) (root : Path) : StateM (World σ) Report :=
  match call.rest with
  | [] => return .usage
  | name :: args =>
    if commandNames.contains name then
      match Command.parse name args with
      | none => return .usage
      | some (.error wish) => return wished wish
      | some (.ok command) => runCommand place root call.engine command
    else return reportUnknown place call.rest

/-- Runs a call. -/
def run (place : Place σ) (args : List String) : StateM (World σ) Report :=
  match Call.parse args with
  | none => return .usage
  | some call =>
    match call.root place with
    | .error report => return report.captured
    | .ok root => do return (← runCall place call root).captured

end WorkspacePolicy.CommandLine
