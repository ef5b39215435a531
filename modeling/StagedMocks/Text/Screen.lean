import StagedMocks.Text.Basic

/-!
Texts for a screen without colours: control characters and control sequences are
left out.

A control sequence starts with an escape character, and what follows decides its
kind and its end. White space that breaks into a short sequence is shown, and so
is what follows it.
-/
namespace StagedMocks.Text

/-- A control sequence that has not ended, by what may follow. -/
inductive ControlSequence where
  | escape
  /-- an escape character and characters from space to slash -/
  | extendedEscape
  | command
  /-- the beginning of a device string -/
  | deviceString
  | deviceParameters
  | deviceExtension
  /-- the rest of a device string, or a string for an application -/
  | string
  /-- a string for the operating system -/
  | systemString
  deriving DecidableEq, Repr

namespace ControlSequence

/-- The sequence behind an escape character and one more character, if that does not end it. -/
def behindEscape? (c : Char) : Option ControlSequence :=
  if c = '[' then some .command
  else if c = ']' then some .systemString
  else if c = 'P' then some .deviceString
  else if c = 'X' || c = '^' || c = '_' then some .string
  else if c ≤ '/' then some .extendedEscape
  else none

/-- The sequence behind one more printable character, if that does not end it. -/
def behindPrintable? (c : Char) : ControlSequence → Option ControlSequence
  | .escape => behindEscape? c
  | .extendedEscape => if c ≤ '/' then some .extendedEscape else none
  | .command => if c ≤ '?' then some .command else none
  | .deviceString =>
      if c ≤ '/' then some .deviceExtension
      else if c ≤ '?' then some .deviceParameters
      else some .string
  | .deviceParameters =>
      if c ≤ '/' then some .deviceExtension
      else if c ≤ ';' then some .deviceParameters
      else some .string
  | .deviceExtension => if c ≤ '/' then some .deviceExtension else some .string
  | .string => some .string
  | .systemString => some .systemString

/-- Whether white space is shown in the middle of a sequence. -/
def showsBlanks : ControlSequence → Bool
  | .escape | .extendedEscape | .command => true
  | _ => false

def stringTerminator : UInt8 := 0x9C

def behindWide? (c : Char) (sequence : ControlSequence) : Option ControlSequence :=
  if sequence = .string ∧ stringTerminator ∈ String.utf8EncodeChar c then none else some sequence

end ControlSequence

inductive ScreenState where
  | plain
  | within (sequence : ControlSequence)
  /-- behind white space in the middle of a sequence -/
  | interrupted (sequence : ControlSequence)
  deriving DecidableEq, Repr

namespace ScreenState

def ofSequence : Option ControlSequence → ScreenState
  | some sequence => .within sequence
  | none => .plain

def isControlBlank (c : Char) : Bool :=
  c = '\t' || c = '\n' || c = '\x0c' || c = '\r'

def isControl (c : Char) : Bool :=
  c < ' ' || c = '\x7f'

/-- Control characters that end every sequence. -/
def isCancel (c : Char) : Bool :=
  c = '\x18' || c = '\x1a'

def showsPlain (c : Char) : Bool :=
  !isControl c || isControlBlank c

def isWide (c : Char) : Bool :=
  '\x7f' < c

def shows (c : Char) : ScreenState → Bool
  | .plain | .interrupted _ => showsPlain c
  | .within sequence => isControlBlank c && sequence.showsBlanks

def insideNext (c : Char) (sequence : ControlSequence) : ScreenState :=
  if isControl c then
    if isControlBlank c && sequence.showsBlanks then .interrupted sequence
    else if c = '\x07' ∧ sequence = .systemString then .plain
    else .within sequence
  else if isWide c then .ofSequence (sequence.behindWide? c)
  else .ofSequence (sequence.behindPrintable? c)

/-- The state behind a character. A sequence that white space has interrupted goes on behind the next
control character, unless a character outside ASCII comes first. -/
def next (c : Char) (state : ScreenState) : ScreenState :=
  if c = '\x1b' then .within .escape
  else if isCancel c then .plain
  else
    match state with
    | .plain => .plain
    | .within sequence => insideNext c sequence
    | .interrupted sequence =>
        if !showsPlain c then .within sequence
        else if isWide c then .plain
        else .interrupted sequence

end ScreenState

def shownFrom : ScreenState → Text → Text
  | _, [] => []
  | state, c :: s =>
      if state.shows c then c :: shownFrom (state.next c) s else shownFrom (state.next c) s

def shown (s : Text) : Text :=
  shownFrom .plain s

def strayByte : Char := '\ufffd'

/-- What is shown of a text inside a message behind a state. Here white space ends a sequence for good.
So does a character outside ASCII, of which only the bytes behind the first are shown. -/
def shownInsideFrom : ScreenState → Text → Text
  | _, [] => []
  | state, c :: s =>
      match state, state.next c with
      | .within _, .interrupted _ => c :: shownInsideFrom .plain s
      | .within _, next =>
          if ScreenState.isWide c then List.replicate (c.utf8Size - 1) strayByte ++ shownInsideFrom .plain s
          else shownInsideFrom next s
      | _, next => if state.shows c then c :: shownInsideFrom next s else shownInsideFrom next s

def shownInside (s : Text) : Text :=
  shownInsideFrom .plain s

end StagedMocks.Text
