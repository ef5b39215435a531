import StagedMocks.Glob.Walk

/-!
The source files that a file argument stands for.

An argument is a wildcard pattern if the run says so. Otherwise a directory
stands for the sources below it, and anything else for itself.
-/
namespace StagedMocks.Expansion

def sorted (paths : List Text) : List Text :=
  paths.mergeSort Text.le

def sourceEnding : Text := ".swift".toList

/-- Whether a file name has the extension of sources, behind at least one character. -/
def isSourceName (name : Text) : Bool :=
  sourceEnding.isSuffixOf name && sourceEnding.length < name.length

/-- Whether the system lists the directory to which names lead from a path. One whose own path is
too long is passed over. -/
def isListable (path : Text) (names : List Text) : Bool :=
  (names.foldl Path.join path).byteLength < Standpoint.pathLimit

def source? (path : Text) (names : List Text) : Entry → Option Text
  | .directory => none
  | .file _ =>
      if names.getLast?.any isSourceName && isListable path names.dropLast then
        some (Path.join path (Path.ofSegments names))
      else none

def sourcesBelow (point : Standpoint) (path : Text) : List Text :=
  sorted <| (point.below path).filterMap fun (names, entry) => source? path names entry

/-- The regular files that a pattern matches; there has to be one. -/
def matchingFiles (point : Standpoint) (pattern : Text) : Except Fault (List Text) :=
  match Glob.matchedPaths point pattern with
  | .error refusal =>
      .error (.pattern
        ("Invalid glob pattern '".toList ++ pattern ++ "': ".toList ++ refusal.message))
  | .ok paths =>
      match sorted (paths.filter point.isFile) with
      | [] => .error (.pattern ("No files found matching pattern: ".toList ++ pattern))
      | files => .ok files

def files (point : Standpoint) (isPattern : Bool) (argument : Text) : Except Fault (List Text) :=
  if isPattern then matchingFiles point argument
  else if point.isDirectory argument then .ok (sourcesBelow point argument)
  else .ok [argument]

/-- The files for which arguments stand; the first that stands for none ends it. -/
def allFiles (point : Standpoint) (isPattern : Bool) (arguments : List Text) :
    Except Fault (List Text) := do
  return (← arguments.mapM (files point isPattern)).flatten

end StagedMocks.Expansion
