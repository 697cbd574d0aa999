/-
# CommandLine.Arguments — what the arguments ask for

A call has options of the program, the name of a command and the arguments of the
command. An option begins with a hyphen. A long option takes its value after an equals
sign or from the next argument, a short one from the rest of its own argument or from the
next one; a switch takes none. Two hyphens alone end the options. The options of the
program end at the first other argument, while those of a command may stand anywhere. Of
several values for one option the last one counts.

Asking for the version or for help comes before everything but the form of the options;
of both wishes the first one counts. Arguments of any other form are a usage error.
-/
import WorkspacePolicy.Entries

namespace WorkspacePolicy.CommandLine

set_option autoImplicit false

/-- A command with its arguments. -/
inductive Command where
  | source (full : Bool)
  | query (text : String) (json : Bool)
  | enforced (json : Bool)
  deriving DecidableEq, Repr

/-- A text that a call asks for in place of a command. -/
inductive Wish where
  | version
  | help
  deriving DecidableEq, Repr

/-- An option: its long name, its short one if it has one, and whether it takes a value. -/
structure Flag where
  name : String
  short : Option Char
  takesValue : Bool

/-- The switch that asks for help. -/
def helpFlag : Flag := ⟨"--help", none, false⟩

/-- The options of the program. -/
def programFlags : List Flag :=
  [⟨"--version", none, false⟩, ⟨"--cwd", some 'C', true⟩, ⟨"--engine", none, true⟩,
    ⟨"--verbose", none, false⟩, helpFlag]

/-- The options of the command that prints the rules. -/
def sourceFlags : List Flag := [⟨"--full", none, false⟩, helpFlag]

/-- The options of the commands with results. -/
def resultFlags : List Flag := [⟨"--json", none, false⟩, helpFlag]

/-- An argument by its form. -/
inductive Word where
  | option (name : String) (value : String)
  | optionWithoutValue (name : String)
  | switch (name : String)
  | endOfOptions
  | other
  | malformed

/-- A long option, with the text after its equals sign if it has one. -/
def longWord (flag : Flag) (value : Option String) : Word :=
  match flag.takesValue, value with
  | true, some value => .option flag.name value
  | true, none => .optionWithoutValue flag.name
  | false, none => .switch flag.name
  | false, some _ => .malformed

/-- A short option with the rest of its argument. -/
def shortWord (flags : List Flag) : List Char → Word
  | [] => .malformed
  | c :: rest =>
    match flags.find? fun flag => flag.short == some c with
    | none => .malformed
    | some flag =>
      if !flag.takesValue then
        if rest.isEmpty then .switch flag.name else .malformed
      else if rest.isEmpty then .optionWithoutValue flag.name
      else .option flag.name (String.ofList rest)

/-- The form of an argument. -/
def wordOf (flags : List Flag) (arg : String) : Word :=
  match arg.toList with
  | ['-', '-'] => .endOfOptions
  | '-' :: c :: rest =>
    let whole := '-' :: c :: rest
    let name := String.ofList (whole.takeWhile (· != '='))
    let value :=
      match whole.dropWhile (· != '=') with
      | _ :: value => some (String.ofList value)
      | [] => none
    match flags.find? (·.name == name) with
    | some flag => longWord flag value
    | none => if c = '-' then .malformed else shortWord flags (c :: rest)
  | _ => .other

/-- Options with their values, in order, and the other arguments. -/
structure Parsed where
  options : List (String × String)
  others : List String

/-- One more option in front. -/
def Parsed.addOption (name value : String) (p : Parsed) : Parsed :=
  { p with options := (name, value) :: p.options }

/-- One more argument in front. -/
def Parsed.addOther (arg : String) (p : Parsed) : Parsed :=
  { p with others := arg :: p.others }

/-- Sorts arguments into options and others; `none` for a usage error. Unless options may
stand anywhere, they end at the first other argument. -/
def parseOptions (flags : List Flag) (anywhere : Bool) : List String → Option Parsed
  | [] => some ⟨[], []⟩
  | arg :: rest =>
    match wordOf flags arg with
    | .option name value => (parseOptions flags anywhere rest).map (·.addOption name value)
    | .optionWithoutValue name =>
      match rest with
      | [] => none
      | value :: rest => (parseOptions flags anywhere rest).map (·.addOption name value)
    | .switch name => (parseOptions flags anywhere rest).map (·.addOption name "")
    | .endOfOptions => some ⟨[], rest⟩
    | .other =>
      if anywhere then (parseOptions flags anywhere rest).map (·.addOther arg)
      else some ⟨[], arg :: rest⟩
    | .malformed => none

namespace Parsed

/-- The value of an option. -/
def value? (p : Parsed) (name : String) : Option String :=
  Entries.find? name p.options.reverse

/-- An option is there. -/
def has (p : Parsed) (name : String) : Bool :=
  (p.value? name).isSome

end Parsed

/-- The options of the program in a call, and the arguments after them. -/
structure Call where
  wish : Option Wish
  directory : Option String
  engine : Option String
  rest : List String
  deriving DecidableEq, Repr

/-- The wish that an option expresses. -/
def wishOf? (name : String) : Option Wish :=
  if name = "--version" then some .version
  else if name = helpFlag.name then some .help
  else none

/-- The options of the program in the arguments; `none` for a usage error. -/
def Call.parse (args : List String) : Option Call :=
  (parseOptions programFlags false args).map fun p => {
    wish := p.options.findSome? fun entry => wishOf? entry.1
    directory := p.value? "--cwd"
    engine := p.value? "--engine"
    rest := p.others }

/-- The names of the commands. -/
def commandNames : List String := ["source", "query", "enforced"]

/-- The options of a command. -/
def commandFlags (name : String) : List Flag :=
  if name = "source" then sourceFlags else resultFlags

/-- The command of a name with arguments; `none` for a usage error. -/
def Command.ofParsed? (name : String) (p : Parsed) : Option Command :=
  match name, p.others with
  | "source", [] => some (.source (p.has "--full"))
  | "query", [text] => some (.query text (p.has "--json"))
  | "enforced", [] => some (.enforced (p.has "--json"))
  | _, _ => none

/-- The command of a name with the arguments after it, or the wish for help on it; `none` for a
usage error. -/
def Command.parse (name : String) (args : List String) : Option (Except Wish Command) := do
  let p ← parseOptions (commandFlags name) true args
  if p.has helpFlag.name then return .error .help
  return .ok (← Command.ofParsed? name p)

end WorkspacePolicy.CommandLine
