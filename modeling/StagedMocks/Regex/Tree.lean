import StagedMocks.Regex.Refusal

/-!
Regular expressions as they are written, with the places to which messages point.
-/
namespace StagedMocks.Regex

inductive Flag where
  | ignoreCase
  | multiLine
  | dotAll
  | unicode
  | crlf
  | lazy
  | spaced
  deriving DecidableEq, Repr

namespace Flag

def ofLetter? : Char → Option Flag
  | 'i' => some .ignoreCase
  | 'm' => some .multiLine
  | 's' => some .dotAll
  | 'u' => some .unicode
  | 'R' => some .crlf
  | 'U' => some .lazy
  | 'x' => some .spaced
  | _ => none

end Flag

abbrev FlagChange := List (Flag × Bool)

inductive Assertion where
  | lineStart
  | lineEnd
  | textStart
  | textEnd
  | wordBoundary
  | noWordBoundary
  | wordStart
  | wordEnd
  | wordStartHalf
  | wordEndHalf
  deriving DecidableEq, Repr

inductive LetteredSet where
  | digit
  | blank
  | word
  deriving DecidableEq, Repr

inductive PropertyQuery where
  | named (name : Text)
  | valued (name value : Text)
  deriving DecidableEq, Repr

/-- A single character. It is a byte if it is written as two hexadecimal digits. -/
structure Literal where
  span : Span
  char : Char
  isByte : Bool
  deriving DecidableEq, Repr

inductive Leaf where
  | literal (literal : Literal)
  | anyChar (span : Span)
  | assertion (span : Span) (assertion : Assertion)
  | lettered (span : Span) (isNegated : Bool) (set : LetteredSet)
  | property (span : Span) (isNegated : Bool) (query : PropertyQuery)
  deriving DecidableEq, Repr

def Leaf.span : Leaf → Span
  | .literal single => single.span
  | .anyChar span | .assertion span _ | .lettered span _ _ | .property span _ _ => span

inductive NamedSet where
  | alnum
  | alpha
  | ascii
  | blank
  | cntrl
  | digit
  | graph
  | lower
  | print
  | punct
  | space
  | upper
  | word
  | xdigit
  deriving DecidableEq, Repr

namespace NamedSet

def all : List (String × NamedSet) :=
  [("alnum", .alnum), ("alpha", .alpha), ("ascii", .ascii), ("blank", .blank), ("cntrl", .cntrl),
   ("digit", .digit), ("graph", .graph), ("lower", .lower), ("print", .print), ("punct", .punct),
   ("space", .space), ("upper", .upper), ("word", .word), ("xdigit", .xdigit)]

def ofName? (name : Text) : Option NamedSet :=
  (all.find? (·.1.toList = name)).map (·.2)

end NamedSet

inductive SetOperation where
  | intersection
  | difference
  | symmetricDifference
  deriving DecidableEq, Repr

inductive SetTree where
  | empty
  | literal (literal : Literal)
  | range (low high : Literal)
  | named (span : Span) (isNegated : Bool) (set : NamedSet)
  | lettered (span : Span) (isNegated : Bool) (set : LetteredSet)
  | property (span : Span) (isNegated : Bool) (query : PropertyQuery)
  | brackets (span : Span) (isNegated : Bool) (inner : SetTree)
  | union (first second : SetTree)
  | operation (operation : SetOperation) (left right : SetTree)
  deriving DecidableEq, Repr

inductive Tree where
  | empty
  /-- flags for what follows in the group -/
  | flags (change : FlagChange)
  | leaf (leaf : Leaf)
  | brackets (span : Span) (isNegated : Bool) (inner : SetTree)
  /-- at least `least` times, and at most `most` times if there is a limit -/
  | repetition (inner : Tree) (least : Nat) (most : Option Nat)
  | group (change : FlagChange) (inner : Tree)
  | concat (first second : Tree)
  | alternation (first second : Tree)
  deriving DecidableEq, Repr

end StagedMocks.Regex
