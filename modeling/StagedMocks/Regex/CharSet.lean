import StagedMocks.Regex.Tree
import StagedMocks.Text.Blank
import StagedMocks.Text.Folding

/-!
Sets of characters.
-/
namespace StagedMocks.Regex

inductive CharSet where
  | empty
  | all
  | range (low high : Char)
  | stretches (stretches : List Text.Stretch)
  | wordChars
  | blanks
  | alphabetic
  | lowercase
  | uppercase
  | union (first second : CharSet)
  | intersection (first second : CharSet)
  | complement (inner : CharSet)
  /-- the characters that differ only in case from one in the set, of ASCII only or of all -/
  | anyCase (isAscii : Bool) (inner : CharSet)

namespace CharSet

def has (c : Char) : CharSet → Bool
  | .empty => false
  | .all => true
  | .range low high => low ≤ c && c ≤ high
  | .stretches parts => Text.isAmong parts c
  | .wordChars => Text.isWordChar c
  | .blanks => Text.isBlank c
  | .alphabetic => Text.isAlphabetic c
  | .lowercase => Text.isLowercase c
  | .uppercase => Text.isUppercase c
  | .union first second => first.has c || second.has c
  | .intersection first second => first.has c && second.has c
  | .complement inner => !inner.has c
  | .anyCase true inner => inner.has c || (Text.asciiCaseVariants c).any (inner.has ·)
  | .anyCase false inner => (Text.caseVariants c).any (inner.has ·)

def single (c : Char) : CharSet := .range c c

def difference (first second : CharSet) : CharSet :=
  .intersection first (.complement second)

def symmetricDifference (first second : CharSet) : CharSet :=
  .union (first.difference second) (second.difference first)

def unions (sets : List CharSet) : CharSet :=
  sets.foldl .union .empty

def ofNamed : NamedSet → CharSet
  | .alnum => unions [.range '0' '9', .range 'A' 'Z', .range 'a' 'z']
  | .alpha => unions [.range 'A' 'Z', .range 'a' 'z']
  | .ascii => .range '\x00' '\x7f'
  | .blank => unions [single '\t', single ' ']
  | .cntrl => unions [.range '\x00' '\x1f', single '\x7f']
  | .digit => .range '0' '9'
  | .graph => .range '!' '~'
  | .lower => .range 'a' 'z'
  | .print => .range ' ' '~'
  | .punct => unions [.range '!' '/', .range ':' '@', .range '[' '\x60', .range '\x7b' '~']
  | .space => unions [.range '\t' '\r', single ' ']
  | .upper => .range 'A' 'Z'
  | .word => unions [.range '0' '9', .range 'A' 'Z', single '_', .range 'a' 'z']
  | .xdigit => unions [.range '0' '9', .range 'A' 'F', .range 'a' 'f']

def ofLettered (isAscii : Bool) : LetteredSet → CharSet
  | .digit => if isAscii then ofNamed .digit else .stretches Text.Category.decimalNumber.stretches
  | .blank => if isAscii then ofNamed .space else .blanks
  | .word => if isAscii then ofNamed .word else .wordChars

end CharSet

end StagedMocks.Regex
