import StagedMocks.Diff.Middle

/-!
Short edit scripts by cutting at the middle of a shortest path.

Whatever point the cut is made at, the halves put together are a script of the
whole, so the search decides only how short the script is.
-/
namespace StagedMocks.Diff

/-- Two lists of lines without what they have in common at their ends. -/
structure Trimmed where
  head : List Line
  old : List Line
  new : List Line
  tail : List Line

namespace Trimmed

def of (old new : List Line) : Trimmed :=
  let first := commonLength old new
  let old' := old.drop first
  let new' := new.drop first
  let last := commonEndLength old' new'
  { head := old.take first
    old := old'.take (old'.length - last)
    new := new'.take (new'.length - last)
    tail := old'.drop (old'.length - last) }

def around (trimmed : Trimmed) (inner : Script) : Script :=
  Script.keeping trimmed.head ++ inner ++ Script.keeping trimmed.tail

end Trimmed

/-- A script between two lists of lines, by at most `depth` cuts of a part of them. -/
def scriptUpTo : Nat → List Line → List Line → Script
  | 0, old, new => Script.changing .old old ++ Script.changing .new new
  | depth + 1, old, new =>
      let trimmed := Trimmed.of old new
      let inner :=
        if trimmed.old.isEmpty || trimmed.new.isEmpty then
          Script.changing .old trimmed.old ++ Script.changing .new trimmed.new
        else
          match middle? trimmed.old trimmed.new with
          | none => Script.changing .old trimmed.old ++ Script.changing .new trimmed.new
          | some (x, y) =>
              scriptUpTo depth (trimmed.old.take x) (trimmed.new.take y) ++
                scriptUpTo depth (trimmed.old.drop x) (trimmed.new.drop y)
      trimmed.around inner

/-- A script from the old to the new lines; each cut leaves fewer lines on both of its sides. -/
def shortestScript (old new : List Line) : Script :=
  scriptUpTo (old.length + new.length + 1) old new

end StagedMocks.Diff
