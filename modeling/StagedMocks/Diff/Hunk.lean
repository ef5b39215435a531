import StagedMocks.Diff.Script

/-!
Hunks: the changes of a script with the lines around them.

Changes whose surrounding lines touch or overlap share a hunk.
-/
namespace StagedMocks.Diff

/-- Lines of the old text, by their numbers from zero, exchanged for lines of the new text. -/
structure Change where
  oldStart : Nat
  oldFinish : Nat
  newStart : Nat
  newFinish : Nat
  deriving DecidableEq, Repr

def contextLength : Nat := 3

/-- The changes of a script, where runs with no kept line between them count as one. `pending`
is the change that the next run can still extend. -/
def changesFrom (oldLine newLine : Nat) (pending : Option Change) : Script → List Change
  | [] => pending.toList
  | .kept lines :: rest =>
      pending.toList ++ changesFrom (oldLine + lines.length) (newLine + lines.length) none rest
  | .changed side lines :: rest =>
      let oldFinish := if side = .old then oldLine + lines.length else oldLine
      let newFinish := if side = .new then newLine + lines.length else newLine
      let change := pending.getD ⟨oldLine, oldLine, newLine, newLine⟩
      changesFrom oldFinish newFinish (some { change with oldFinish, newFinish }) rest

def changes (script : Script) : List Change :=
  changesFrom 0 0 none script

structure HunkRange where
  oldStart : Nat
  oldFinish : Nat
  newStart : Nat
  newFinish : Nat
  changes : List Change
  deriving DecidableEq, Repr

namespace HunkRange

def ofChange (oldCount newCount : Nat) (change : Change) : HunkRange :=
  let after := min contextLength (min (oldCount - change.oldFinish) (newCount - change.newFinish))
  { oldStart := change.oldStart - contextLength
    oldFinish := change.oldFinish + after
    newStart := change.newStart - contextLength
    newFinish := change.newFinish + after
    changes := [change] }

def reaches (oldCount : Nat) (range : HunkRange) (change : Change) : Bool :=
  min change.oldStart (oldCount - 1) - contextLength < range.oldFinish

/-- A hunk that goes on to the end of a later one. -/
def join (range later : HunkRange) : HunkRange :=
  { range with
    oldFinish := later.oldFinish
    newFinish := later.newFinish
    changes := range.changes ++ later.changes }

/-- Groups changes into hunks, the first of which has begun. -/
def group (oldCount newCount : Nat) (current : HunkRange) : List Change → List HunkRange
  | [] => [current]
  | change :: rest =>
      let own := ofChange oldCount newCount change
      if current.reaches oldCount change then group oldCount newCount (current.join own) rest
      else current :: group oldCount newCount own rest

def ofChanges (oldCount newCount : Nat) : List Change → List HunkRange
  | [] => []
  | change :: rest => group oldCount newCount (ofChange oldCount newCount change) rest

end HunkRange

inductive HunkLine where
  | context (line : Line)
  | deleted (line : Line)
  | inserted (line : Line)
  deriving DecidableEq, Repr

/-- A hunk with its first line numbers, counted from zero, and its lines. -/
structure Hunk where
  oldStart : Nat
  oldCount : Nat
  newStart : Nat
  newCount : Nat
  lines : List HunkLine
  deriving DecidableEq, Repr

namespace Hunk

def between (lines : Array Line) (start finish : Nat) : List Line :=
  (lines.extract start finish).toList

/-- The lines of the changes and of the new text around them, from new line `position` to
`finish`. -/
def body (old new : Array Line) (finish position : Nat) : List Change → List HunkLine
  | [] => (between new position finish).map .context
  | change :: rest =>
      (between new position change.newStart).map .context ++
        (between old change.oldStart change.oldFinish).map .deleted ++
        (between new change.newStart change.newFinish).map .inserted ++
        body old new finish change.newFinish rest

def ofRange (old new : Array Line) (range : HunkRange) : Hunk where
  oldStart := range.oldStart
  oldCount := range.oldFinish - range.oldStart
  newStart := range.newStart
  newCount := range.newFinish - range.newStart
  lines := body old new range.newFinish range.newStart range.changes

end Hunk

def hunks (old new : List Line) (script : Script) : List Hunk :=
  (HunkRange.ofChanges old.length new.length (changes script)).map
    (Hunk.ofRange old.toArray new.toArray)

end StagedMocks.Diff
