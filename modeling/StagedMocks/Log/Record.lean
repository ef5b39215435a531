import StagedMocks.Text.Screen

/-!
Log records and how they are written.
-/
namespace StagedMocks.Log

inductive Level where
  | error
  | warn
  | info
  | debug
  | trace
  deriving DecidableEq, Repr

namespace Level

def rank : Level → Nat
  | .error => 1
  | .warn => 2
  | .info => 3
  | .debug => 4
  | .trace => 5

/-- The level's name, five characters wide. -/
def label : Level → String
  | .error => "ERROR"
  | .warn => "WARN "
  | .info => "INFO "
  | .debug => "DEBUG"
  | .trace => "TRACE"

end Level

structure Record where
  level : Level
  /-- The part of the program that speaks. -/
  target : Text
  message : Text
  deriving DecidableEq, Repr

namespace Record

/-- The lines of a message behind the first are indented. -/
def indented (message : Text) : Text :=
  message.flatMap fun c => if c = '\n' then "\n    ".toList else [c]

def text (record : Record) : Text :=
  Text.shown ('[' :: record.level.label.toList ++ [' '] ++ record.target ++ "] ".toList ++
    indented record.message ++ ['\n'])

end Record

end StagedMocks.Log
