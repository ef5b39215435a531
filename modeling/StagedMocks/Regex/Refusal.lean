import StagedMocks.Text.Basic

/-!
Why a regular expression is refused, and how the message points at the place.
-/
namespace StagedMocks.Regex

/-- A stretch of an expression, by the numbers of characters before its two ends. -/
structure Span where
  start : Nat
  finish : Nat
  deriving DecidableEq, Repr

inductive Flaw where
  | setEscape
  | setRangeOrder
  | setRangeBound
  | setUnclosed
  | numberTooLarge
  | hexEmpty
  | hexNotAChar
  | hexDigit
  | escapeUnfinished
  | escapeUnknown
  | flagDanglingNegation
  | flagRepeated
  | flagNegationRepeated
  | flagUnfinished
  | flagUnknown
  | nameRepeated
  | nameEmpty
  | nameChar
  | nameUnclosed
  | groupUnclosed
  | groupUnopened
  | countOrder
  | countEmpty
  | countUnclosed
  | nothingToRepeat
  | boundaryUnclosed
  | boundaryUnknown
  | boundaryUnfinished
  | propertyForm
  | backreference
  | lookAround
  | unicodeNotAllowed
  | notUtf8
  | propertyUnknown
  | propertyValueUnknown
  deriving DecidableEq, Repr

namespace Flaw

def label : Flaw → String
  | .setEscape => "invalid escape sequence found in character class"
  | .setRangeOrder => "invalid character class range, the start must be <= the end"
  | .setRangeBound => "invalid range boundary, must be a literal"
  | .setUnclosed => "unclosed character class"
  | .numberTooLarge => "decimal literal invalid"
  | .hexEmpty => "hexadecimal literal empty"
  | .hexNotAChar => "hexadecimal literal is not a Unicode scalar value"
  | .hexDigit => "invalid hexadecimal digit"
  | .escapeUnfinished => "incomplete escape sequence, reached end of pattern prematurely"
  | .escapeUnknown => "unrecognized escape sequence"
  | .flagDanglingNegation => "dangling flag negation operator"
  | .flagRepeated => "duplicate flag"
  | .flagNegationRepeated => "flag negation operator repeated"
  | .flagUnfinished => "expected flag but got end of regex"
  | .flagUnknown => "unrecognized flag"
  | .nameRepeated => "duplicate capture group name"
  | .nameEmpty => "empty capture group name"
  | .nameChar => "invalid capture group character"
  | .nameUnclosed => "unclosed capture group name"
  | .groupUnclosed => "unclosed group"
  | .groupUnopened => "unopened group"
  | .countOrder => "invalid repetition count range, the start must be <= the end"
  | .countEmpty => "repetition quantifier expects a valid decimal"
  | .countUnclosed => "unclosed counted repetition"
  | .nothingToRepeat => "repetition operator missing expression"
  | .boundaryUnclosed =>
      "special word boundary assertion is either unclosed or contains an invalid character"
  | .boundaryUnknown =>
      "unrecognized special word boundary assertion, " ++
        "valid choices are: start, end, start-half or end-half"
  | .boundaryUnfinished =>
      "found either the beginning of a special word boundary or a bounded repetition " ++
        "on a \\b with an opening brace, but no closing brace"
  | .propertyForm => "invalid Unicode character class"
  | .backreference => "backreferences are not supported"
  | .lookAround => "look-around, including look-ahead and look-behind, is not supported"
  | .unicodeNotAllowed => "Unicode not allowed here"
  | .notUtf8 => "pattern can match invalid UTF-8"
  | .propertyUnknown => "Unicode property not found"
  | .propertyValueUnknown => "Unicode property value not found"

end Flaw

/-- A flaw, where it is, and an earlier place that it is about. -/
structure Refusal where
  flaw : Flaw
  span : Span
  earlier : Option Span := none
  deriving DecidableEq, Repr

/-- A place in a text of several lines, both numbers from one on. -/
structure Place where
  line : Nat
  column : Nat
  deriving DecidableEq, Repr

def place (expression : Text) (position : Nat) : Place :=
  let before := expression.take position
  ⟨before.count '\n' + 1, (before.reverse.takeWhile (· != '\n')).length + 1⟩

/-- Two places, of which the second is not before the first. -/
structure Mark where
  start : Place
  finish : Place
  deriving DecidableEq, Repr

namespace Mark

def ofSpan (expression : Text) (span : Span) : Mark :=
  ⟨place expression span.start, place expression span.finish⟩

def isOneLine (mark : Mark) : Bool :=
  mark.start.line = mark.finish.line

/-- Carets below the columns of marks on one line, of which `column` columns are passed. -/
def carets : Nat → List Mark → Text
  | _, [] => []
  | passed, mark :: rest =>
      let blanks := mark.start.column - 1 - passed
      let width := max 1 (mark.finish.column - mark.start.column)
      List.replicate blanks ' ' ++ List.replicate width '^' ++ carets (passed + blanks + width) rest

def words (mark : Mark) : Text :=
  "on line ".toList ++ Text.ofNat mark.start.line ++ " (column ".toList ++
    Text.ofNat mark.start.column ++ ") through line ".toList ++ Text.ofNat mark.finish.line ++
    " (column ".toList ++ Text.ofNat (mark.finish.column - 1) ++ ")".toList

end Mark

namespace Refusal

def marks (expression : Text) (refusal : Refusal) : List Mark :=
  (refusal.earlier.toList ++ [refusal.span]).map (Mark.ofSpan expression)

/-- The lines of a text without their ends. A line feed at the very end starts no line. -/
def lines (expression : Text) : List Text :=
  let pieces := Text.splitAt '\n' expression
  let ended := pieces.dropLast.map fun line => if line.endsWith '\r' then line.dropLast else line
  ended ++ pieces.getLast?.toList.filter (!·.isEmpty)

/-- What stands in front of a line: its number if there are several, else four blanks. -/
def margin (count number : Nat) : Text :=
  if count ≤ 1 then "    ".toList
  else
    let digits := Text.ofNat number
    List.replicate ((Text.ofNat count).length - digits.length) ' ' ++ digits ++ ": ".toList

/-- The lines from a number on, each with the carets that belong below it. -/
def drawn (count : Nat) (marks : List Mark) : Nat → List Text → Text
  | _, [] => []
  | number, line :: rest =>
      let lead := margin count number
      let below := marks.filter fun mark => mark.isOneLine && mark.start.line = number
      let note :=
        if below.isEmpty then []
        else List.replicate lead.length ' ' ++ Mark.carets 0 below ++ ['\n']
      lead ++ line ++ ['\n'] ++ note ++ drawn count marks (number + 1) rest

def divider : Text :=
  List.replicate 79 '~' ++ ['\n']

/-- The message: the expression with carets at the place, and the flaw. -/
def message (expression : Text) (refusal : Refusal) : Text :=
  let marks := refusal.marks expression
  let count := (Text.splitAt '\n' expression).length
  let picture := drawn count marks 1 (lines expression)
  let wide := marks.filter (!·.isOneLine)
  let notes := if wide.isEmpty then [] else ['\n'].intercalate (wide.map Mark.words) ++ ['\n']
  "regex parse error:\n".toList ++
    (if count ≤ 1 then picture else divider ++ picture ++ divider ++ notes) ++
    "error: ".toList ++ refusal.flaw.label.toList

end Refusal

end StagedMocks.Regex
