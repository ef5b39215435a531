import StagedMocks.Regex.Escape

/-!
Reading a set of characters in brackets.

Brackets can hold other brackets and operations on sets, so what is open is kept
from the innermost on.
-/
namespace StagedMocks.Regex.Brackets

structure Opening where
  span : Span
  isNegated : Bool

/-- What waits for the set that is being read. -/
inductive Pending where
  /-- brackets, with the set before them in the brackets around them -/
  | brackets (opening : Opening) (before : SetTree)
  | operation (operation : SetOperation) (left : SetTree)

def add (before part : SetTree) : SetTree :=
  match before with
  | .empty => part
  | _ => .union before part

/-- Reads hyphens at the beginning of brackets, which stand for themselves; at most `limit`. -/
def hyphens (isSpaced : Bool) (start : Nat) : Nat → Cursor → SetTree → Reading (SetTree × Cursor)
  | 0, cursor, before => .ok (before, cursor)
  | limit + 1, cursor, before =>
      match cursor.next? with
      | none => refuse .setUnclosed ⟨start, start⟩
      | some '-' =>
          hyphens isSpaced start limit (cursor.advance isSpaced)
            (add before (.literal ⟨cursor.nextSpan, '-', false⟩))
      | some _ => .ok (before, cursor)

/-- Reads the beginning of brackets: what it negates, hyphens, or a closing bracket that stands for
itself. -/
def opened (isSpaced : Bool) (cursor : Cursor) : Reading (Opening × SetTree × Cursor) := do
  let start := cursor.position
  let inside := cursor.advance isSpaced
  let isNegated := inside.next? == some '^'
  let first := if isNegated then inside.advance isSpaced else inside
  if first.isAtEnd then refuse .setUnclosed (first.since start)
  let (front, behind) ← hyphens isSpaced start (first.rest.length + 1) first .empty
  if front = .empty ∧ behind.next? = some ']' then
    let second := behind.advance isSpaced
    if second.isAtEnd then refuse .setUnclosed (second.since start)
    return (⟨second.since start, isNegated⟩, .literal ⟨behind.nextSpan, ']', false⟩, second)
  return (⟨behind.since start, isNegated⟩, front, behind)

/-- Reads a set of ASCII characters by its name between colons in brackets, if it is one. -/
def named? (cursor : Cursor) : Option (SetTree × Cursor) := do
  let inside ← cursor.after? "[:"
  let isNegated := inside.next? == some '^'
  let first := if isNegated then inside.skip 1 else inside
  let name := first.rest.takeWhile (· != ':')
  let behind ← (first.skip name.length).after? ":]"
  let set ← NamedSet.ofName? name
  return (.named (behind.since cursor.position) isNegated set, behind)

def innermost? : List Pending → Option Opening
  | [] => none
  | .brackets opening _ :: _ => some opening
  | .operation _ _ :: rest => innermost? rest

def unclosed {α : Type} (pending : List Pending) (cursor : Cursor) : Reading α :=
  refuse .setUnclosed (((innermost? pending).map Opening.span).getD cursor.here)

def item (isSpaced : Bool) (cursor : Cursor) : Reading (Leaf × Cursor) :=
  match cursor.next? with
  | some '\\' => Escape.read isSpaced cursor
  | some c => .ok (.literal ⟨cursor.nextSpan, c, false⟩, cursor.skip 1)
  | none => refuse .setUnclosed cursor.here

/-- A part of a set. Some escape sequences stand for no character. -/
def part : Leaf → Reading SetTree
  | .literal literal => .ok (.literal literal)
  | .lettered span isNegated set => .ok (.lettered span isNegated set)
  | .property span isNegated query => .ok (.property span isNegated query)
  | .assertion span _ | .anyChar span => refuse .setEscape span

def bound : Leaf → Reading Literal
  | .literal literal => .ok literal
  | leaf => refuse .setRangeBound leaf.span

def range (isSpaced : Bool) (pending : List Pending) (cursor : Cursor) :
    Reading (SetTree × Cursor) := do
  let (first, read) ← item isSpaced cursor
  let behind := read.skipSpace isSpaced
  if behind.isAtEnd then unclosed pending behind
  let following := behind.second? isSpaced
  if behind.next? ≠ some '-' ∨ following = some ']' ∨ following = some '-' then
    return (← part first, behind)
  let upper := behind.advance isSpaced
  if upper.isAtEnd then unclosed pending upper
  let (second, final) ← item isSpaced upper
  let low ← bound first
  let high ← bound second
  if high.char < low.char then refuse .setRangeOrder ⟨low.span.start, high.span.finish⟩
  return (.range low high, final)

/-- A set with the operation that waits for it. -/
def operated (pending : List Pending) (set : SetTree) : List Pending × SetTree :=
  match pending with
  | .operation operation left :: rest => (rest, .operation operation left set)
  | _ => (pending, set)

def operation? : Text → Option SetOperation
  | '&' :: '&' :: _ => some .intersection
  | '-' :: '-' :: _ => some .difference
  | '~' :: '~' :: _ => some .symmetricDifference
  | _ => none

/-- Reads on in brackets that are open, behind the set `before`; at most `limit` parts. -/
def inside (isSpaced : Bool) : Nat → List Pending → SetTree → Cursor → Reading (Tree × Cursor)
  | 0, pending, _, cursor => unclosed pending cursor
  | limit + 1, pending, before, cursor => do
      let cursor := cursor.skipSpace isSpaced
      match cursor.next? with
      | none => unclosed pending cursor
      | some '[' =>
          match named? cursor with
          | some (set, behind) => inside isSpaced limit pending (add before set) behind
          | none =>
              let (opening, front, behind) ← opened isSpaced cursor
              inside isSpaced limit (.brackets opening before :: pending) front behind
      | some ']' =>
          let (waiting, set) := operated pending before
          let behind := cursor.skip 1
          match waiting with
          | .brackets opening _ :: [] =>
              return (.brackets (behind.since opening.span.start) opening.isNegated set, behind)
          | .brackets opening outer :: rest =>
              let span := behind.since opening.span.start
              inside isSpaced limit rest (add outer (.brackets span opening.isNegated set)) behind
          | _ => unclosed pending cursor
      | some _ =>
          match operation? cursor.rest with
          | some operation =>
              let (waiting, left) := operated pending before
              inside isSpaced limit (.operation operation left :: waiting) .empty (cursor.skip 2)
          | none =>
              let (part, behind) ← range isSpaced pending cursor
              inside isSpaced limit pending (add before part) behind

def read (isSpaced : Bool) (cursor : Cursor) : Reading (Tree × Cursor) := do
  let (opening, front, behind) ← opened isSpaced cursor
  inside isSpaced (behind.rest.length + 1) [.brackets opening .empty] front behind

end StagedMocks.Regex.Brackets
