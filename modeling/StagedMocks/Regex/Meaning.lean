import StagedMocks.Regex.Pattern
import StagedMocks.Regex.Property
import StagedMocks.Regex.Reader

/-!
The pattern that a written expression stands for.

Flags hold from where they are set to the end of the group. An expression that
could match part of a character is refused.
-/
namespace StagedMocks.Regex

structure Flags where
  ignoresCase : Bool := false
  isMultiLine : Bool := false
  dotIsAll : Bool := false
  isUnicode : Bool := true
  isCrlf : Bool := false
  deriving DecidableEq, Repr

namespace Flags

def set (flags : Flags) : Flag × Bool → Flags
  | (.ignoreCase, value) => { flags with ignoresCase := value }
  | (.multiLine, value) => { flags with isMultiLine := value }
  | (.dotAll, value) => { flags with dotIsAll := value }
  | (.unicode, value) => { flags with isUnicode := value }
  | (.crlf, value) => { flags with isCrlf := value }
  | (.lazy, _) | (.spaced, _) => flags

def change (flags : Flags) (change : FlagChange) : Flags :=
  change.foldl set flags

end Flags

inductive Condition where
  | textStart
  | textEnd
  | lineStart
  | lineEnd
  | crlfLineStart
  | crlfLineEnd
  /-- a condition on which of the two characters belong to words -/
  | words (isAscii : Bool) (condition : Bool → Bool → Bool)

namespace Condition

def isWord (isAscii : Bool) (c : Option Char) : Bool :=
  c.any ((CharSet.ofLettered isAscii .word).has ·)

def holds (previous next : Option Char) : Condition → Bool
  | .textStart => previous.isNone
  | .textEnd => next.isNone
  | .lineStart => previous.isNone || previous == some '\n'
  | .lineEnd => next.isNone || next == some '\n'
  | .crlfLineStart =>
      previous.isNone || previous == some '\n' || previous == some '\r' && next != some '\n'
  | .crlfLineEnd => next.isNone || next == some '\r' || next == some '\n' && previous != some '\r'
  | .words isAscii condition => condition (isWord isAscii previous) (isWord isAscii next)

end Condition

abbrev CharPattern := Pattern CharSet Condition

namespace Meaning

def condition (flags : Flags) : Assertion → Condition
  | .lineStart =>
      if !flags.isMultiLine then .textStart else if flags.isCrlf then .crlfLineStart else .lineStart
  | .lineEnd =>
      if !flags.isMultiLine then .textEnd else if flags.isCrlf then .crlfLineEnd else .lineEnd
  | .textStart => .textStart
  | .textEnd => .textEnd
  | .wordBoundary => .words (!flags.isUnicode) fun before behind => before != behind
  | .noWordBoundary => .words (!flags.isUnicode) fun before behind => before == behind
  | .wordStart => .words (!flags.isUnicode) fun before behind => !before && behind
  | .wordEnd => .words (!flags.isUnicode) fun before behind => before && !behind
  | .wordStartHalf => .words (!flags.isUnicode) fun before _ => !before
  | .wordEndHalf => .words (!flags.isUnicode) fun _ behind => !behind

/-- A set with the characters that differ only in case, if case is ignored. -/
def folded (flags : Flags) (set : CharSet) : CharSet :=
  if flags.ignoresCase then .anyCase (!flags.isUnicode) set else set

/-- A set or its complement. Without Unicode a complement has bytes that are no characters. -/
def negated (flags : Flags) (span : Span) (isNegated : Bool) (set : CharSet) : Reading CharSet :=
  if !isNegated then .ok set
  else if flags.isUnicode then .ok (.complement set)
  else refuse .notUtf8 span

def lettered (flags : Flags) (span : Span) (isNegated : Bool) (set : LetteredSet) :
    Reading CharSet :=
  negated flags span isNegated (.ofLettered (!flags.isUnicode) set)

def property (flags : Flags) (span : Span) (isNegated : Bool) (query : PropertyQuery) :
    Reading CharSet :=
  if !flags.isUnicode then refuse .unicodeNotAllowed span
  else
    match Property.find query with
    | .ok set => negated flags span isNegated (folded flags set)
    | .error flaw => refuse flaw span

/-- Refuses a byte that is no character. -/
def checkByte (flags : Flags) (literal : Literal) : Reading Unit :=
  if !flags.isUnicode && literal.isByte && '\x7f' < literal.char then refuse .notUtf8 literal.span
  else .ok ()

/-- The character of a literal in brackets. Without Unicode it has to be in ASCII. -/
def member (flags : Flags) (literal : Literal) : Reading Char := do
  checkByte flags literal
  if !flags.isUnicode && '\x7f' < literal.char then refuse .unicodeNotAllowed literal.span
  return literal.char

def set (flags : Flags) : SetTree → Reading CharSet
  | .empty => .ok .empty
  | .literal literal => do return .single (← member flags literal)
  | .range low high => do return .range (← member flags low) (← member flags high)
  | .named span isNegated set => negated flags span isNegated (folded flags (.ofNamed set))
  | .lettered span isNegated set => lettered flags span isNegated set
  | .property span isNegated query => property flags span isNegated query
  | .brackets span isNegated inner => do
      negated flags span isNegated (folded flags (← set flags inner))
  | .union first second => do return .union (← set flags first) (← set flags second)
  | .operation operation left right => do
      let left := folded flags (← set flags left)
      let right := folded flags (← set flags right)
      return match operation with
        | .intersection => .intersection left right
        | .difference => left.difference right
        | .symmetricDifference => left.symmetricDifference right

def anyChar (flags : Flags) (span : Span) : Reading CharSet :=
  if !flags.isUnicode then refuse .notUtf8 span
  else if flags.dotIsAll then .ok .all
  else if flags.isCrlf then .ok (.complement (.union (.single '\r') (.single '\n')))
  else .ok (.complement (.single '\n'))

def leaf (flags : Flags) : Leaf → Reading CharPattern
  | .literal literal => do
      checkByte flags literal
      return .char (folded flags (.single literal.char))
  | .anyChar span => do return .char (← anyChar flags span)
  | .assertion _ assertion => .ok (.assertion (condition flags assertion))
  | .lettered span isNegated set => do return .char (← lettered flags span isNegated set)
  | .property span isNegated query => do return .char (← property flags span isNegated query)

/-- The pattern of an expression, and the flags behind it. -/
def pattern (flags : Flags) : Tree → Reading (CharPattern × Flags)
  | .empty => .ok (.empty, flags)
  | .flags change => .ok (.empty, flags.change change)
  | .leaf single => do return (← leaf flags single, flags)
  | .brackets span isNegated inner => do
      return (.char (← negated flags span isNegated (folded flags (← set flags inner))), flags)
  | .repetition inner least most => do
      let (inner, behind) ← pattern flags inner
      return (.repetition inner least most, behind)
  | .group change inner => do
      let (inner, _) ← pattern (flags.change change) inner
      return (inner, flags)
  | .concat first second => do
      let (first, between) ← pattern flags first
      let (second, behind) ← pattern between second
      return (.concat first second, behind)
  | .alternation first second => do
      let (first, between) ← pattern flags first
      let (second, behind) ← pattern between second
      return (.alternation first second, behind)

end Meaning

structure Expression where
  text : Text
  pattern : CharPattern

namespace Expression

def read (text : Text) : Except Text Expression :=
  let result : Reading CharPattern := do
    let (pattern, _) ← Meaning.pattern {} (← Tree.read text)
    return pattern
  match result with
  | .ok pattern => .ok ⟨text, pattern⟩
  | .error refusal => .error (refusal.message text)

def occursIn (expression : Expression) (s : Text) : Bool :=
  expression.pattern.occursIn (fun set c => set.has c)
    (fun condition previous next => condition.holds previous next) s

end Expression

end StagedMocks.Regex
