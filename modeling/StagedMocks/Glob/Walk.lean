import StagedMocks.Disk.Standpoint
import StagedMocks.Glob.Pattern

/-!
The paths that a wildcard pattern matches on a disk.

The components of the pattern are followed from the current directory or from the
root. A component without wildcards is joined to the path and has to lead
somewhere; another one is compared with the names in the directory. Below the
current directory a path is written without the leading dot.
-/
namespace StagedMocks.Glob

/-- The path of a name below a directory, where the current directory is not written. -/
def childPath (path name : Text) : Text :=
  if Path.isHere path then name else Path.join path name

def descendants (point : Standpoint) (path : Text) : List (Text × Text) :=
  (point.below path).filterMap fun (names, _) =>
    names.getLast?.map fun last => (childPath path (Path.ofSegments names), last)

/-- A pattern with wildcards that starts with a dot also stands for the directory itself and the one
above it. -/
def dotPaths (pattern : Pattern) (path : Text) : List Text :=
  if pattern.head? = some (.char '.') then
    ([['.'], ['.', '.']].filter pattern.accepts).map (Path.join path)
  else []

def walk (point : Standpoint) : List Pattern → Text → List Text
  | [], path => [path]
  | pattern :: rest, path =>
      if pattern.isRecursive then
        match rest with
        | [] => ((descendants point path).map (·.1)).filter point.isDirectory
        | next :: behind =>
            if next.isRecursive then walk point (next :: behind) path
            else
              ((descendants point path).filter (next.accepts ·.2)).flatMap fun (found, _) =>
                walk point behind found
      else
        match pattern.literal? with
        | some name =>
            let next := childPath path name
            let isDots := name = ['.'] || name = ['.', '.']
            if isDots && point.isDirectory path || !isDots && point.leads next then
              walk point rest next
            else []
        | none =>
            if point.isDirectory path then
              let children := (point.names path).filter pattern.accepts
              (children.map (childPath path) ++ dotPaths pattern path).flatMap (walk point rest)
            else []

/-- The components of a pattern behind a leading slash; one slash at the end makes no component. -/
def components (s : Text) : List Text :=
  let relative : Text := if Path.isAbsolute s then s.tail else s
  if relative.isEmpty then [[]]
  else
    let segments := Path.segments relative
    if relative.endsWith '/' then segments.dropLast else segments

/-- The paths that a pattern matches. One that ends in a slash matches directories only. -/
def matchedPaths (point : Standpoint) (s : Text) : Except Refusal (List Text) := do
  let _ ← Pattern.read s
  let patterns ← (components s).mapM Pattern.read
  let found := walk point patterns (if Path.isAbsolute s then ['/'] else ['.'])
  return if s.endsWith '/' then found.filter point.isDirectory else found

end StagedMocks.Glob
