import StagedMocks.Disk.Standpoint
import StagedMocks.Log.Record
import StagedMocks.Settings.Document

/-!
Settings in files, and the search for the file that governs a source.
-/
namespace StagedMocks.Settings

def fileName : Text := "mockmigrate.toml".toList

def logTarget : Text := "mockmigrate::options".toList

/-- Reads settings from a file. What the parser says of a document that it cannot read is left out
of the message, behind the words that begin it. -/
def load (point : Standpoint) (path : Text) : Except Fault Settings :=
  match point.readText path with
  | .error cause => .error (.fileAccess path cause)
  | .ok document =>
      match ofDocument? document with
      | some settings => .ok settings
      | none => .error (.configuration (path ++ ": TOML parse error".toList))

/-- Reads settings from a file, with the standard ones if there is no such file. A file that cannot
be used is told. -/
def loadOrStandard (point : Standpoint) (path : Text) : Settings × List Log.Record :=
  if point.isFile path then
    match load point path with
    | .ok settings => (settings, [])
    | .error fault =>
        ({}, [⟨.warn, logTarget, fault.message ++ ". Using default options.".toList⟩])
  else ({}, [])

def save (settings : Settings) (point : Standpoint) (path : Text) : Except Fault Disk :=
  match point.writeText path settings.document with
  | .ok disk => .ok disk
  | .error cause => .error (.fileAccess path cause)

def searchStart (point : Standpoint) (filename : Text) : Text :=
  if point.isDirectory filename then filename
  else
    match Path.parent? filename with
    | none | some [] => Standpoint.pathOf point.here
    | some parent => parent

/-- The settings file in the nearest directory on the way up from a source file. -/
def search? (point : Standpoint) (filename : Text) : Option Text :=
  ((Path.ancestors (searchStart point filename)).map (Path.join · fileName)).find? point.isFile

end StagedMocks.Settings
