import StagedMocks.Diff.Shortest
import StagedMocks.Diff.Compaction
import StagedMocks.Diff.Hunk

/-!
The unified form of a difference between two texts.

Two header lines name the file, in place of those that the patch comes with, and
each hunk has a line with its ranges and one line for every line it shows. A line
without a line feed at its end is followed by a remark.
-/
namespace StagedMocks.Diff

def rangeText (start count : Nat) : Text :=
  let first := if count = 0 then start else start + 1
  if count = 1 then Text.ofNat first
  else Text.ofNat first ++ [','] ++ Text.ofNat count

def missingLineFeed : Text := "\n\\ No newline at end of file\n".toList

def signed (sign : Char) (line : Line) : Text :=
  let written := sign :: line
  if line.endsWith '\n' then written else written ++ missingLineFeed

namespace HunkLine

/-- An empty context line is written without its sign. -/
def text : HunkLine → Text
  | .context line => if line = ['\n'] then line else signed ' ' line
  | .deleted line => signed '-' line
  | .inserted line => signed '+' line

end HunkLine

namespace Hunk

def text (hunk : Hunk) : Text :=
  "@@ -".toList ++ rangeText hunk.oldStart hunk.oldCount ++ " +".toList ++
    rangeText hunk.newStart hunk.newCount ++ " @@\n".toList ++ hunk.lines.flatMap HunkLine.text

end Hunk

def hunksBetween (old new : Text) : List Hunk :=
  let oldLines := lines old
  let newLines := lines new
  hunks oldLines newLines (compacted (shortestScript oldLines newLines))

/-- The patch between two texts, under the names that it has for texts without a file. -/
def patchText (old new : Text) : Text :=
  "--- original\n+++ modified\n".toList ++ (hunksBetween old new).flatMap Hunk.text

/-- A patch from the first place on that looks like the beginning of a hunk. -/
def fromHunks (patch : Text) : Text :=
  ((Text.ends patch).find? "@@".toList.isPrefixOf).getD patch

/-- The difference between two texts of a file, empty if they are equal. -/
def unified (filename old new : Text) : Text :=
  if old = new then []
  else
    "--- ".toList ++ filename ++ "\n+++ ".toList ++ filename ++ ['\n'] ++
      fromHunks (patchText old new)

end StagedMocks.Diff
