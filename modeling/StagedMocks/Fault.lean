import StagedMocks.SystemFault

/-!
What can go wrong in a run, and the words in which it is told.
-/
namespace StagedMocks

inductive AccessFault where
  | system (fault : SystemFault)
  | notUtf8
  | nulInPath
  | other (text : Text)
  deriving DecidableEq, Repr

namespace AccessFault

def message : AccessFault → Text
  | .system fault => fault.message
  | .notUtf8 => "stream did not contain valid UTF-8".toList
  | .nulInPath => "file name contained an unexpected NUL byte".toList
  | .other text => text

end AccessFault

inductive Fault where
  | arguments (text : Text)
  | access (cause : AccessFault)
  | fileAccess (path : Text) (cause : AccessFault)
  | configuration (text : Text)
  | pattern (text : Text)
  deriving DecidableEq, Repr

namespace Fault

def message : Fault → Text
  | .arguments text => text
  | .access cause => "I/O error: ".toList ++ cause.message
  | .fileAccess path cause =>
      "Failed to access file '".toList ++ path ++ "': ".toList ++ cause.message
  | .configuration text => "Configuration error: ".toList ++ text
  | .pattern text => text

def cause? : Fault → Option AccessFault
  | .access cause => some cause
  | .fileAccess _ cause => some cause
  | .arguments _ | .configuration _ | .pattern _ => none

end Fault

end StagedMocks
