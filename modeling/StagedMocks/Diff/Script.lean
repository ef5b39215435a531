import StagedMocks.Text.Basic

/-!
Edit scripts on lines.

A script is a sequence of runs of lines: lines that both texts keep, lines of the
old text that go, and lines of the new text that come. A script belongs to the
two texts that are read off it.
-/
namespace StagedMocks.Diff

abbrev Line := Text

/-- A text cut behind each line feed; only the last line can lack one. -/
def lines : Text → List Line
  | [] => []
  | c :: s =>
      if c = '\n' then ['\n'] :: lines s
      else
        match lines s with
        | [] => [[c]]
        | line :: rest => (c :: line) :: rest

inductive Side where
  | old
  | new
  deriving DecidableEq, Repr

inductive Run where
  | kept (lines : List Line)
  | changed (side : Side) (lines : List Line)
  deriving DecidableEq, Repr

namespace Run

def linesOn (side : Side) : Run → List Line
  | .kept lines => lines
  | .changed s lines => if s = side then lines else []

/-- One more than the number of lines of a run. -/
def weight : Run → Nat
  | .kept lines => lines.length + 1
  | .changed _ lines => lines.length + 1

end Run

abbrev Script := List Run

namespace Script

def linesOn (side : Side) (script : Script) : List Line :=
  script.flatMap (Run.linesOn side)

def weight (script : Script) : Nat :=
  (script.map Run.weight).foldr (· + ·) 0

/-- Lines that both texts have, as a run if there are any. -/
def keeping (lines : List Line) : Script :=
  if lines.isEmpty then [] else [.kept lines]

def changing (side : Side) (lines : List Line) : Script :=
  if lines.isEmpty then [] else [.changed side lines]

end Script

def commonLength : List Line → List Line → Nat
  | a :: as, b :: bs => if a = b then commonLength as bs + 1 else 0
  | _, _ => 0

def commonEndLength (as bs : List Line) : Nat :=
  commonLength as.reverse bs.reverse

end StagedMocks.Diff
