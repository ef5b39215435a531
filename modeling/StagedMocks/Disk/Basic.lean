import StagedMocks.Text.Basic

/-!
A disk of regular files and directories, without links.

A disk lists its entries by location: the names that lead from the root to the
entry. The root itself is a directory and is not listed.
-/
namespace StagedMocks

/-- The names from the root down to an entry. -/
abbrev Location := List Text

inductive Entry where
  | file (bytes : ByteArray)
  | directory

structure Disk where
  entries : List (Location × Entry)

namespace Disk

def empty : Disk := ⟨[]⟩

def find? (disk : Disk) (location : Location) : Option Entry :=
  if location.isEmpty then some .directory else disk.entries.lookup location

def isDirectoryAt (disk : Disk) (location : Location) : Bool :=
  match disk.find? location with
  | some .directory => true
  | _ => false

/-- Entries with the one at a location exchanged, or with one added there. -/
def putEntry (location : Location) (entry : Entry) :
    List (Location × Entry) → List (Location × Entry)
  | [] => [(location, entry)]
  | (l, e) :: rest =>
      if l = location then (l, entry) :: rest else (l, e) :: putEntry location entry rest

def put (disk : Disk) (location : Location) (entry : Entry) : Disk :=
  ⟨putEntry location entry disk.entries⟩

/-- Makes the directories that lead to a location, given as the names before and the names
to come. -/
def makeDirectories (disk : Disk) (above : Location) : Location → Disk
  | [] => disk
  | name :: names =>
      let location := above ++ [name]
      let next := if (disk.find? location).isSome then disk else disk.put location .directory
      makeDirectories next location names

def add (disk : Disk) (location : Location) (entry : Entry) : Disk :=
  (disk.makeDirectories [] location.dropLast).put location entry

/-- The entries below a location, each with the names that lead to it from there. -/
def below (disk : Disk) (location : Location) : List (Location × Entry) :=
  disk.entries.filterMap fun (l, entry) =>
    match location.isPrefixOf? l with
    | some [] => none
    | some names => some (names, entry)
    | none => none

def names (disk : Disk) (location : Location) : List Text :=
  (disk.below location).filterMap fun (names, _) =>
    match names with
    | [name] => some name
    | _ => none

end Disk

end StagedMocks
