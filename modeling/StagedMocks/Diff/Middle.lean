import StagedMocks.Diff.Script

/-!
The middle of a shortest edit path between two lists of lines.

Paths run over a grid: a step right drops an old line, a step down takes a new
line, and a diagonal step keeps a line of both. Diagonal `k` holds the points
whose column exceeds their row by `k`. From both corners the furthest point of
every diagonal is found for one more change at a time, until the two searches
meet.
-/
namespace StagedMocks.Diff

/-- The furthest column reached on each diagonal. -/
structure Frontier where
  offset : Nat
  columns : Array Nat

namespace Frontier

def empty (reach : Nat) : Frontier :=
  ⟨reach, Array.replicate (2 * reach + 1) 0⟩

def get (frontier : Frontier) (k : Int) : Nat :=
  frontier.columns.getD (k + frontier.offset).toNat 0

def set (frontier : Frontier) (k : Int) (column : Nat) : Frontier :=
  { frontier with columns := frontier.columns.setIfInBounds (k + frontier.offset).toNat column }

/-- The column at which diagonal `k` is entered with the `d`-th change. -/
def entry (frontier : Frontier) (d : Nat) (k : Int) : Nat :=
  if k = -(d : Int) ∨ (k ≠ d ∧ frontier.get (k - 1) < frontier.get (k + 1)) then
    frontier.get (k + 1)
  else frontier.get (k - 1) + 1

end Frontier

def commonFrom (old new : Array Line) (x y : Nat) : Nat :=
  if hx : x < old.size then
    if hy : y < new.size then
      if old[x] = new[y] then commonFrom old new (x + 1) (y + 1) + 1 else 0
    else 0
  else 0
termination_by old.size - x

structure Snake where
  column : Nat
  row : Int
  length : Nat

def Frontier.snake (frontier : Frontier) (old new : Array Line) (d : Nat) (k : Int) : Snake :=
  let column := frontier.entry d k
  let row := (column : Int) - k
  ⟨column, row, if 0 ≤ row then commonFrom old new column row.toNat else 0⟩

/-- Two lists of lines, forward and backward, with their frontiers. -/
structure Search where
  old : Array Line
  new : Array Line
  oldBack : Array Line
  newBack : Array Line
  forward : Frontier
  backward : Frontier

namespace Search

def start (old new : List Line) : Search :=
  let reach := old.length + new.length + 2
  { old := old.toArray
    new := new.toArray
    oldBack := old.reverse.toArray
    newBack := new.reverse.toArray
    forward := .empty reach
    backward := .empty reach }

/-- The diagonal on which the path ends. -/
def delta (search : Search) : Int :=
  search.old.size - search.new.size

/-- Whether the length of a shortest path is odd, so that a forward run closes it. -/
def isOdd (search : Search) : Bool :=
  search.delta % 2 != 0

/-- The diagonals that the `d`-th change reaches, from the highest down. -/
def diagonals (d : Nat) : List Int :=
  (List.range (d + 1)).map fun i => (d : Int) - 2 * (i : Nat)

/-- Advances the forward search on each diagonal, until a run meets the backward search. -/
def stepForward (search : Search) (d : Nat) : List Int → Search × Option (Nat × Nat)
  | [] => (search, none)
  | k :: ks =>
      let snake := search.forward.snake search.old search.new d k
      let column := snake.column + snake.length
      let next := { search with forward := search.forward.set k column }
      if search.isOdd ∧ (k - search.delta).natAbs < d ∧
          search.old.size ≤ column + search.backward.get (search.delta - k) then
        (next, some (snake.column, snake.row.toNat))
      else stepForward next d ks

def stepBackward (search : Search) (d : Nat) : List Int → Search × Option (Nat × Nat)
  | [] => (search, none)
  | k :: ks =>
      let snake := search.backward.snake search.oldBack search.newBack d k
      let column := snake.column + snake.length
      let next := { search with backward := search.backward.set k column }
      if !search.isOdd ∧ (k - search.delta).natAbs ≤ d ∧
          search.old.size ≤ column + search.forward.get (search.delta - k) then
        (next, some (search.old.size - column,
          (search.new.size - (snake.row + snake.length)).toNat))
      else stepBackward next d ks

/-- Searches with at most `limit` more changes from each corner, beginning with the `d`-th. -/
def meet? (search : Search) (d : Nat) : Nat → Option (Nat × Nat)
  | 0 => none
  | limit + 1 =>
      match search.stepForward d (diagonals d) with
      | (_, some point) => some point
      | (forth, none) =>
          match forth.stepBackward d (diagonals d) with
          | (_, some point) => some point
          | (back, none) => back.meet? (d + 1) limit

end Search

/-- A point at which a shortest edit path can be cut: how many old and how many new lines stand
before it. -/
def middle? (old new : List Line) : Option (Nat × Nat) :=
  (Search.start old new).meet? 0 (old.length + new.length + 1)

end StagedMocks.Diff
