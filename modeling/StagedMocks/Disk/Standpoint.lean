import StagedMocks.Disk.Basic
import StagedMocks.Disk.Path
import StagedMocks.Fault

/-!
A disk seen from a current directory: what a path leads to, and reading and
writing by path.

A path is followed name by name. Every name before the last has to be that of a
directory, and two dots lead to the directory above.
-/
namespace StagedMocks

structure Standpoint where
  disk : Disk
  /-- The location of the current directory. -/
  here : Location

namespace Standpoint

def nameLimit : Nat := 255

/-- The number of bytes that a path stays below. -/
def pathLimit : Nat := 4096

def follow (disk : Disk) : Location → List Text → Except AccessFault Location
  | location, [] => .ok location
  | location, segment :: rest =>
      if !disk.isDirectoryAt location then .error (.system .notADirectory)
      else if Path.isIdle segment then follow disk location rest
      else if segment = ['.', '.'] then follow disk location.dropLast rest
      else if nameLimit < segment.byteLength then .error (.system .nameTooLong)
      else if (disk.find? (location ++ [segment])).isNone then .error (.system .notFound)
      else follow disk (location ++ [segment]) rest

/-- Refuses paths that name nothing on any disk. -/
def checkPath (path : Text) : Except AccessFault Unit :=
  if path.contains '\x00' then .error .nulInPath
  else if path.isEmpty then .error (.system .notFound)
  else if pathLimit ≤ path.byteLength then .error (.system .nameTooLong)
  else .ok ()

def origin (point : Standpoint) (path : Text) : Location :=
  if Path.isAbsolute path then [] else point.here

def resolve (point : Standpoint) (path : Text) : Except AccessFault Location := do
  checkPath path
  follow point.disk (point.origin path) (Path.segments path)

def entry? (point : Standpoint) (path : Text) : Option Entry :=
  match point.resolve path with
  | .ok location => point.disk.find? location
  | .error _ => none

def leads (point : Standpoint) (path : Text) : Bool :=
  (point.entry? path).isSome

def isFile (point : Standpoint) (path : Text) : Bool :=
  match point.entry? path with
  | some (.file _) => true
  | _ => false

def isDirectory (point : Standpoint) (path : Text) : Bool :=
  match point.entry? path with
  | some .directory => true
  | _ => false

def below (point : Standpoint) (path : Text) : List (Location × Entry) :=
  match point.resolve path with
  | .ok location => if point.disk.isDirectoryAt location then point.disk.below location else []
  | .error _ => []

def names (point : Standpoint) (path : Text) : List Text :=
  match point.resolve path with
  | .ok location => if point.disk.isDirectoryAt location then point.disk.names location else []
  | .error _ => []

def readText (point : Standpoint) (path : Text) : Except AccessFault Text := do
  match point.disk.find? (← point.resolve path) with
  | none => .error (.system .notFound)
  | some .directory => .error (.system .isADirectory)
  | some (.file bytes) =>
      match String.fromUTF8? bytes with
      | some text => .ok text.toList
      | none => .error .notUtf8

/-- The location at which a path writes a file: that of a file, or a free name in a directory. -/
def target (point : Standpoint) (path : Text) : Except AccessFault Location := do
  checkPath path
  let ended := (Path.segments path).reverse
  let trimmed := ended.dropWhile (·.isEmpty)
  let parent ← follow point.disk (point.origin path) trimmed.tail.reverse
  match trimmed with
  | [] => .error (.system .isADirectory)
  | name :: _ =>
      if !point.disk.isDirectoryAt parent then .error (.system .notADirectory)
      else if ended.length ≠ trimmed.length || Path.isIdle name || name = ['.', '.'] then
        .error (.system .isADirectory)
      else if nameLimit < name.byteLength then .error (.system .nameTooLong)
      else if point.disk.isDirectoryAt (parent ++ [name]) then .error (.system .isADirectory)
      else .ok (parent ++ [name])

/-- The disk after a text has been written to a file, which is made if there is none. -/
def writeText (point : Standpoint) (path text : Text) : Except AccessFault Disk := do
  let location ← point.target path
  return point.disk.put location (.file (String.ofList text).toUTF8)

def pathOf (location : Location) : Text :=
  '/' :: Path.ofSegments location

end Standpoint

end StagedMocks
