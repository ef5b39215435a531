import StagedMocks.Text.Basic

/-!
Paths as texts.

Going up from a path is a matter of its text alone. Segments that are empty or a
single dot do not count as names, except a dot at the very beginning.
-/
namespace StagedMocks.Path

def segments (path : Text) : List Text :=
  Text.splitAt '/' path

def ofSegments (segments : List Text) : Text :=
  ['/'].intercalate segments

def isAbsolute (path : Text) : Bool :=
  path.head? == some '/'

/-- Segments that do not count as names. -/
def isIdle (segment : Text) : Bool :=
  segment = [] || segment = ['.']

def join (path name : Text) : Text :=
  if path.isEmpty then name
  else if path.endsWith '/' then path ++ name
  else path ++ '/' :: name

/-- The beginning of a path that is never cut off by segments: the root, or a leading dot. -/
def start (path : Text) : Text :=
  match path with
  | '/' :: _ => ['/']
  | '.' :: '/' :: _ => ['.']
  | ['.'] => ['.']
  | _ => []

/-- The paths above one that consists of a start and of segments, given from the last on. -/
def above (start : Text) : List Text → List Text
  | [] => if start = ['.'] then [[]] else []
  | segment :: rest =>
      if isIdle segment then above start rest
      else (start ++ ofSegments (rest.dropWhile isIdle).reverse) :: above start rest

def backwards (path : Text) : List Text :=
  (segments (path.drop (start path).length)).reverse

def parent? (path : Text) : Option Text :=
  (above (start path) (backwards path)).head?

/-- The name of the entry that a path leads to, if its last step is not upwards. -/
def name? (path : Text) : Option Text :=
  ((segments path).reverse.find? (!isIdle ·)).filter (· ≠ ['.', '.'])

def ancestors (path : Text) : List Text :=
  path :: above (start path) (backwards path)

/-- Whether a path is a dot, followed by nothing that counts. -/
def isHere (path : Text) : Bool :=
  match segments path with
  | first :: rest => first = ['.'] && rest.all isIdle
  | [] => false

end StagedMocks.Path
