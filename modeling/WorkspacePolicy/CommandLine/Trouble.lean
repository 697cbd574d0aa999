/-
# CommandLine.Trouble — what goes wrong in a command

An error of the logic is printed as it is, and an error in what the user wrote as a
message after `Error: `. Every other trouble is not expected: it ends the command without
a message of its own.
-/
import WorkspacePolicy.CommandLine.Markup
import WorkspacePolicy.Engine.Failure
import WorkspacePolicy.Project.FaultMessage

namespace WorkspacePolicy

set_option autoImplicit false

/-- Why a command ends early. -/
inductive Trouble where
  | project (fault : Project.Fault)
  | rules (fault : FileTree.Fault)
  | failure (failure : Failure)
  | markup (fault : Markup.Fault)
  /-- The name of the directory holds a null character. -/
  | nullInDirectory
  /-- A text to be printed holds a lone surrogate. -/
  | unencodable

namespace Yaml.Fault

/-- The fault is an error in what the user wrote that has a message. -/
def isReported : Yaml.Fault → Bool
  | .codeOutOfRange | .notWhole .. | .tooManyDigits _ | .notFloating _ | .unknownWord _
  | .outsideCalendar _ | .zoneTooFar _ => true
  | .malformed | .codeTooLarge | .tooManyPlaces | .emptyScalar | .noMoment | .momentOfMapping
  | .endlessDefault => false

end Yaml.Fault

namespace FileTree.Fault

/-- The fault is an error in what the user wrote that has a message. -/
def isReported : FileTree.Fault → Bool
  | .undecodable => true
  | .unreadable => false

end FileTree.Fault

namespace Configuration.Fault

/-- The fault is an error in what the user wrote that has a message. -/
def isReported : Configuration.Fault → Bool
  | .yaml fault => fault.isReported
  | .file fault => fault.isReported
  | _ => true

end Configuration.Fault

namespace Project.Fault

/-- The fault is an error in what the user wrote that has a message. -/
def isReported : Project.Fault → Bool
  | .file fault => fault.isReported
  | .pattern fault => fault == .starsInName
  | .configuration fault => fault.isReported
  | _ => true

end Project.Fault

namespace Bridge.Fault

/-- The fault is an error in what the user wrote that has a message. -/
def isReported : Bridge.Fault → Bool
  | .unbound _ => true
  | .notAPair _ => true
  | .unknownTerm _ => true
  | _ => false

end Bridge.Fault

namespace Failure

/-- The failure is an error in what the user wrote that has a message. -/
def isReported : Failure → Bool
  | .unknownEngine _ => true
  | .bridge fault => fault.isReported
  | .unboundVariable _ => true
  | .unwritable _ => true
  | _ => false

end Failure

namespace Markup.Fault

/-- The fault is an error in what the user wrote that has a message. -/
def isReported : Markup.Fault → Bool
  | .style _ => true
  | _ => false

end Markup.Fault

namespace Trouble

def message : Trouble → String
  | .project fault => fault.message
  | .rules fault => fault.message
  | .failure f => f.message
  | .markup fault => fault.message
  | .nullInDirectory => "embedded null byte"
  | .unencodable => "utf-8"

/-- The trouble is an error in what the user wrote that has a message. -/
def isReported : Trouble → Bool
  | .project fault => fault.isReported
  | .rules fault => fault.isReported
  | .failure f => f.isReported
  | .markup fault => fault.isReported
  | .nullInDirectory => false
  | .unencodable => true

/-- The message after `Error: `, if there is one. -/
def report? (trouble : Trouble) : Option String :=
  if trouble.isReported then some trouble.message else none

end Trouble

end WorkspacePolicy
