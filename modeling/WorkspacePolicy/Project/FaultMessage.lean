/-
# Project.FaultMessage — what is said about a project that cannot be loaded

Every fault has a text, except those that the file system or the YAML grammar reports.
-/
import WorkspacePolicy.Project.Load

namespace WorkspacePolicy

set_option autoImplicit false

namespace Yaml.Fault

/-- A number of minutes as days and seconds, of which only the days may be negative. -/
def durationText (minutes : Int) : String :=
  let days := minutes.fdiv (24 * 60)
  let seconds := 60 * minutes.fmod (24 * 60)
  let rest := if seconds = 0 then "" else s!", seconds={seconds}"
  s!"datetime.timedelta(days={days}{rest})"

/-- What is said about a part of a date or time that does not exist. -/
def calendarMessage : CalendarPart → String
  | .year value => s!"year {value} is out of range"
  | .month => "month must be in 1..12"
  | .day => "day is out of range for month"
  | .hour => "hour must be in 0..23"
  | .minute => "minute must be in 0..59"
  | .second => "second must be in 0..59"

/-- What is said about a text that has no value. -/
def message : Yaml.Fault → String
  | .malformed => "malformed YAML"
  | .codeOutOfRange => "chr() arg not in range(0x110000)"
  | .codeTooLarge => "Python int too large to convert to C int"
  | .notWhole base text => Whole.Fault.message base text.toList .malformed
  | .tooManyDigits digits => Whole.tooLongMessage digits
  | .notFloating text => s!"could not convert string to float: {Text.quoted text}"
  | .tooManyPlaces => "int too large to convert to float"
  | .unknownWord word => word
  | .emptyScalar => "string index out of range"
  | .noMoment => "'NoneType' object has no attribute 'groupdict'"
  | .momentOfMapping => "expected string or bytes-like object, got 'list'"
  | .outsideCalendar part => calendarMessage part
  | .zoneTooFar minutes =>
    "offset must be a timedelta strictly between -timedelta(hours=24) and " ++
      s!"timedelta(hours=24), not {durationText minutes}."
  | .endlessDefault => "maximum recursion depth exceeded"

end Yaml.Fault

namespace FileTree.Fault

def message : FileTree.Fault → String
  | .unreadable => "unreadable file"
  | .undecodable => "utf-8"

end FileTree.Fault

namespace Configuration.Fault

def message : Configuration.Fault → String
  | .rulesNotText => s!"{rulesKey} must be a non-empty string"
  | .engineNotText => s!"{engineKey} must be a non-empty string"
  | .nullInPath => "embedded null byte"
  | .unencodablePath => "utf-8"
  | .notAMapping => s!"{fileName} must contain a mapping"
  | .yaml fault => fault.message
  | .file fault => fault.message

end Configuration.Fault

namespace Project.Fault

def message : Project.Fault → String
  | .noManifest root => s!"No {manifestName} found in {Path.text root}"
  | .file fault => fault.message
  | .invalidJson path error =>
    match error with
    | .malformed .. => s!"Invalid JSON in {path}: {error.message}"
    | _ => error.message
  | .notAnObject path => s!"{path} must contain a JSON object"
  | .manifest fault => fault.message
  | .patternsNotAList => "workspaces must be a list of glob patterns"
  | .pattern fault => fault.message
  | .outside place root =>
    s!"{Text.quoted (Path.text place)} is not in the subpath of {Text.quoted (Path.text root)}" ++
      " OR one path is relative and the other is absolute."
  | .configuration fault => fault.message

end Project.Fault

end WorkspacePolicy
