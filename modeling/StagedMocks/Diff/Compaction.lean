import StagedMocks.Diff.Script

/-!
Sliding changes so that they merge.

A changed run whose last lines are also the last of the kept run before it says
the same when it is moved up over them, and likewise downwards. Moved runs that
touch a run of their own side become one with it. Every move leaves both texts
of the script as they are.
-/
namespace StagedMocks.Diff

/-- A changed run in its place: the runs before it, nearest first, and those behind it. -/
structure Placed where
  before : Script
  lines : List Line
  behind : Script

def Script.prepend (lines : List Line) : Script → Script
  | .kept next :: rest => .kept (lines ++ next) :: rest
  | script => .kept lines :: script

/-- Kept lines put behind a script given from its end, as part of a kept run that stands there. -/
def Script.appendLast (lines : List Line) : Script → Script
  | .kept previous :: rest => .kept (previous ++ lines) :: rest
  | script => .kept lines :: script

namespace Placed

/-- Moves a run of one side up as far as it goes, in at most `limit` moves. -/
def raise (side : Side) : Nat → Placed → Placed
  | 0, placed => placed
  | limit + 1, placed =>
      match placed.before with
      | [] => placed
      | .kept previous :: rest =>
          let shared := commonEndLength placed.lines previous
          if shared = 0 then
            if previous.isEmpty then raise side limit { placed with before := rest } else placed
          else
            let moved := placed.lines.drop (placed.lines.length - shared)
            raise side limit
              { before := Script.keeping (previous.take (previous.length - shared)) ++ rest
                lines := moved ++ placed.lines.take (placed.lines.length - shared)
                behind := placed.behind.prepend moved }
      | .changed s lines :: rest =>
          if s = side then
            raise side limit { placed with before := rest, lines := lines ++ placed.lines }
          else
            raise side limit { placed with before := rest, behind := .changed s lines :: placed.behind }

def lower (side : Side) : Nat → Placed → Placed
  | 0, placed => placed
  | limit + 1, placed =>
      match placed.behind with
      | [] => placed
      | .kept next :: rest =>
          let shared := commonLength placed.lines next
          if shared = 0 then
            if next.isEmpty then lower side limit { placed with behind := rest } else placed
          else
            let moved := placed.lines.take shared
            lower side limit
              { before := placed.before.appendLast moved
                lines := placed.lines.drop shared ++ moved
                behind := Script.keeping (next.drop shared) ++ rest }
      | .changed s lines :: rest =>
          if s = side then
            lower side limit { placed with behind := rest, lines := placed.lines ++ lines }
          else
            lower side limit { placed with before := .changed s lines :: placed.before, behind := rest }

def settle (side : Side) (placed : Placed) : Placed :=
  let raised := raise side placed.before.weight placed
  lower side raised.behind.weight raised

end Placed

/-- Settles the runs of one side from the first to the last, in at most `limit` steps; the runs
passed so far are given from the last on. -/
def settleAll (side : Side) : Nat → Script → Script → Script
  | 0, passed, script => passed.reverse ++ script
  | _ + 1, passed, [] => passed.reverse
  | limit + 1, passed, .kept lines :: rest => settleAll side limit (.kept lines :: passed) rest
  | limit + 1, passed, .changed s lines :: rest =>
      if s = side then
        let placed := Placed.settle side ⟨passed, lines, rest⟩
        settleAll side limit (.changed side placed.lines :: placed.before) placed.behind
      else settleAll side limit (.changed s lines :: passed) rest

/-- Settles the runs of one side; every run that is passed twice has merged with another. -/
def settled (side : Side) (script : Script) : Script :=
  settleAll side ((script.weight + 1) * (script.weight + 1)) [] script

/-- First the lines that go are settled, then those that come. -/
def compacted (script : Script) : Script :=
  settled .new (settled .old script)

end StagedMocks.Diff
