import StagedMocks.Program

/-!
The command line: takes a picture of the part of the disk that a run can look at,
runs the program on it, and writes back the files that the run has changed.
-/
namespace StagedMocks.Main

def spelledLocation (here : Location) (path : Text) : Location :=
  (Path.segments path).foldl (fun location segment =>
    if Path.isIdle segment then location
    else if segment = ['.', '.'] then location.dropLast
    else location ++ [segment]) (if Path.isAbsolute path then [] else here)

def isWild (segment : Text) : Bool :=
  segment.any fun c => c == '*' || c == '?' || c == '['

/-- The location from which a pattern is walked. Behind the first wildcard a pattern can still lead
upwards. -/
def patternBase (here : Location) (pattern : Text) : Location :=
  let segments := Path.segments pattern
  let fixed := segments.takeWhile (!isWild ·)
  let upward := (segments.dropWhile (!isWild ·)).countP (· = ['.', '.'])
  let base := spelledLocation here (Path.ofSegments fixed)
  base.take (base.length - upward)

/-- The locations below which a run can look at everything. -/
def lookedAt (here : Location) (arguments : Arguments) : List Location :=
  let bases :=
    if arguments.command = .initialise then []
    else if arguments.arePatterns then arguments.filenames.map (patternBase here)
    else arguments.filenames.map (spelledLocation here)
  bases ++ arguments.settingsPath.toList.map (spelledLocation here)

/-- The locations that a run can pass on its way. -/
def passed (here : Location) (arguments : Arguments) : List Location :=
  here :: arguments.filenames.map (spelledLocation here) ++ lookedAt here arguments

def pathString (location : Location) : String :=
  String.ofList (Standpoint.pathOf location)

def dirEntry (location : Location) : IO.FS.DirEntry :=
  { root := pathString location.dropLast, fileName := String.ofList (location.getLast?.getD []) }

def pictureEntry (disk : Disk) (location : Location) : IO Disk := do
  if location.isEmpty || (disk.find? location).isSome then return disk
  let entry := dirEntry location
  if ← entry.path.isDir then return disk.put location .directory
  else if ← entry.path.pathExists then
    return disk.put location (.file (← IO.FS.readBinFile entry.path))
  else return disk

/-- Adds an entry to the picture, with the directories that lead to it and their settings files. -/
def pictureWay (disk : Disk) : Location → Location → IO Disk
  | above, [] => pictureEntry disk (above ++ [Settings.fileName])
  | above, name :: names => do
      let disk ← pictureEntry disk (above ++ [Settings.fileName])
      let disk ← pictureEntry disk (above ++ [name])
      if disk.isDirectoryAt (above ++ [name]) then pictureWay disk (above ++ [name]) names
      else return disk

/-- Adds everything below a directory to the picture. Links are left out. -/
partial def pictureBelow (disk : Disk) (location : Location) : IO Disk := do
  if !disk.isDirectoryAt location then return disk
  let mut disk := disk
  for child in ← (dirEntry location).path.readDir do
    let inner := location ++ [child.fileName.toList]
    match (← child.path.symlinkMetadata).type with
    | .dir => disk ← pictureBelow (← pictureEntry disk inner) inner
    | .file => disk ← pictureEntry disk inner
    | _ => pure ()
  return disk

def writeChanges (before after : Disk) : IO Unit :=
  for (location, entry) in after.entries do
    if let .file bytes := entry then
      match before.find? location with
      | some (.file old) =>
          if old.data != bytes.data then IO.FS.writeBinFile (pathString location) bytes
      | _ => IO.FS.writeBinFile (pathString location) bytes

def printAll (printed : List Program.Output) : IO Unit :=
  for output in printed do
    match output with
    | .out text => IO.print (String.ofList text)
    | .err text => IO.eprint (String.ofList text)

def picture (here : Location) (commandLine : List Text) : IO Disk := do
  match Arguments.read commandLine with
  | .ok (.run arguments) =>
      let mut disk := Disk.empty
      for location in passed here arguments do
        disk ← pictureWay disk [] location
      for location in lookedAt here arguments do
        disk ← pictureBelow disk location
      return disk
  | _ => return .empty

end StagedMocks.Main

open StagedMocks in
def main (arguments : List String) : IO UInt32 := do
  let here := Main.spelledLocation [] (← IO.currentDir).toString.toList
  let commandLine := "mockmigrate".toList :: arguments.map String.toList
  let disk ← Main.picture here commandLine
  let environment := (← IO.getEnv "RUST_LOG").map String.toList
  let result := Program.run ⟨disk, here⟩ environment commandLine
  Main.writeChanges disk result.disk
  Main.printAll result.printed
  return result.status.toUInt32
