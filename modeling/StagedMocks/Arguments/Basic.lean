import StagedMocks.Disk.Path
import StagedMocks.Log.Filter
import StagedMocks.Text.Screen

/-!
What a command line asks for, and why one is refused.
-/
namespace StagedMocks

inductive Command where
  | update
  | check
  | initialise
  deriving DecidableEq, Repr

structure Arguments where
  command : Command
  /-- The file arguments, or the path of the settings file to make. -/
  filenames : List Text
  settingsPath : Option Text
  verbosity : Option Log.Verbosity
  arePatterns : Bool
  deriving DecidableEq, Repr

namespace Arguments

inductive Switch where
  | logLevel
  | config
  | check
  | multi
  | initConfig
  deriving DecidableEq, Repr

namespace Switch

def all : List Switch :=
  [.logLevel, .config, .check, .multi, .initConfig]

def name : Switch → String
  | .logLevel => "log-level"
  | .config => "config"
  | .check => "check"
  | .multi => "multi"
  | .initConfig => "init-config"

/-- The word for a switch's value, if it takes one. -/
def valueName? : Switch → Option String
  | .logLevel => some "LOG_LEVEL"
  | .config => some "CONFIG"
  | .initConfig => some "PATH"
  | .check | .multi => none

def label (switch : Switch) : Text :=
  "--".toList ++ switch.name.toList ++
    match switch.valueName? with
    | some word => " <".toList ++ word.toList ++ ['>']
    | none => []

def excludes : Switch → Switch → Bool
  | .initConfig, other => other == .check || other == .multi || other == .config
  | other, .initConfig => other == .check || other == .multi || other == .config
  | _, _ => false

end Switch

/-- The name of the program, unless it is called by another one. -/
def standardProgram : Text := "mockmigrate".toList

def program (commandLine : List Text) : Text :=
  (commandLine.head?.bind Path.name?).getD standardProgram

inductive Refusal where
  | unexpectedArgument (argument : Text)
  /-- `name` takes no value -/
  | unexpectedValue (value name : Text)
  | missingValue (switch : Switch)
  | invalidLevel (value : Text)
  | repeated (switch : Switch)
  | excluded (switch : Switch) (others : List Switch)
  | noFiles
  deriving DecidableEq, Repr

namespace Refusal

def possibleLevels : Text :=
  "\n  [possible values: ".toList ++
    ", ".toList.intercalate (Log.Verbosity.all.map (·.name.toList)) ++ "]".toList

/-- What is shown of a text, in single quotes. -/
def quoted (s : Text) : Text :=
  '\'' :: Text.shownInside s ++ ['\'']

/-- The first paragraph of the message. -/
def reason : Refusal → Text
  | .unexpectedArgument argument =>
      "error: unexpected argument ".toList ++ quoted argument ++ " found".toList
  | .unexpectedValue value name =>
      "error: unexpected value ".toList ++ quoted value ++ " for ".toList ++ quoted name ++
        " found; no more were expected".toList
  | .missingValue switch =>
      "error: a value is required for ".toList ++ quoted switch.label ++
        " but none was supplied".toList ++ if switch = .logLevel then possibleLevels else []
  | .invalidLevel value =>
      "error: invalid value ".toList ++ quoted value ++ " for ".toList ++
        quoted Switch.logLevel.label ++ possibleLevels
  | .repeated switch =>
      "error: the argument ".toList ++ quoted switch.label ++
        " cannot be used multiple times".toList
  | .excluded switch [other] =>
      "error: the argument ".toList ++ quoted switch.label ++ " cannot be used with ".toList ++
        quoted other.label
  | .excluded switch others =>
      "error: the argument ".toList ++ quoted switch.label ++ " cannot be used with:".toList ++
        others.flatMap fun other => "\n  ".toList ++ other.label
  | .noFiles => "error: the following required arguments were not provided:\n  <FILES>...".toList

def showsUsage : Refusal → Bool
  | .missingValue _ | .invalidLevel _ => false
  | _ => true

def usage (program : Text) : Text :=
  "Usage: ".toList ++ Text.shownInside program ++ " [OPTIONS] [FILES]...".toList

/-- The message: the reason, the usage where it helps, and where to find more. -/
def message (program : Text) (refusal : Refusal) : Text :=
  refusal.reason ++ (if refusal.showsUsage then "\n\n".toList ++ usage program else []) ++
    "\n\nFor more information, try '--help'.\n".toList

end Refusal

inductive Request where
  /-- the help text, in its long form or not -/
  | help (isLong : Bool)
  | version
  | run (arguments : Arguments)
  deriving DecidableEq, Repr

end Arguments

end StagedMocks
