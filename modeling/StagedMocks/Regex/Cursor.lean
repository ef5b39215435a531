import StagedMocks.Regex.Tree
import StagedMocks.Text.Blank

/-!
A place in an expression that is being read.

In a spaced expression, blanks and comments from a hash to the end of the line
are passed over between most characters.
-/
namespace StagedMocks.Regex

structure Cursor where
  /-- The number of characters before the place. -/
  position : Nat
  rest : Text
  deriving DecidableEq, Repr

namespace Cursor

def next? (cursor : Cursor) : Option Char :=
  cursor.rest.head?

def isAtEnd (cursor : Cursor) : Bool :=
  cursor.rest.isEmpty

def skip (count : Nat) (cursor : Cursor) : Cursor :=
  ⟨cursor.position + min count cursor.rest.length, cursor.rest.drop count⟩

/-- The number of blanks and of characters of comments at the beginning of a text. -/
def spaceLength : Bool → Text → Nat
  | _, [] => 0
  | true, c :: s => spaceLength (c != '\n') s + 1
  | false, c :: s =>
      if Text.isBlank c then spaceLength false s + 1
      else if c = '#' then spaceLength true s + 1
      else 0

def skipSpace (isSpaced : Bool) (cursor : Cursor) : Cursor :=
  if isSpaced then cursor.skip (spaceLength false cursor.rest) else cursor

def advance (isSpaced : Bool) (cursor : Cursor) : Cursor :=
  (cursor.skip 1).skipSpace isSpaced

/-- The character behind the next one and the space that follows. -/
def second? (isSpaced : Bool) (cursor : Cursor) : Option Char :=
  if isSpaced then
    match cursor.rest.tail.dropWhile Text.isBlank with
    | '#' :: s => (s.dropWhile Text.isBlank).head?
    | s => s.head?
  else cursor.rest.tail.head?

def after? (opening : String) (cursor : Cursor) : Option Cursor :=
  if opening.toList.isPrefixOf cursor.rest then some (cursor.skip opening.length) else none

def here (cursor : Cursor) : Span :=
  ⟨cursor.position, cursor.position⟩

def nextSpan (cursor : Cursor) : Span :=
  ⟨cursor.position, cursor.position + 1⟩

def since (cursor : Cursor) (start : Nat) : Span :=
  ⟨start, cursor.position⟩

/-- The characters that satisfy a condition, up to the first that does not, and the cursor behind
them. Space between them is passed over; at most `limit` characters are read. -/
def takeWhile (isSpaced : Bool) (condition : Char → Bool) : Nat → Cursor → Text × Cursor
  | 0, cursor => ([], cursor)
  | limit + 1, cursor =>
      match cursor.next? with
      | none => ([], cursor)
      | some c =>
          if condition c then
            let (more, behind) := takeWhile isSpaced condition limit (cursor.advance isSpaced)
            (c :: more, behind)
          else ([], cursor)

end Cursor

abbrev Reading (α : Type) := Except Refusal α

def refuse {α : Type} (flaw : Flaw) (span : Span) : Reading α :=
  .error { flaw, span }

end StagedMocks.Regex
