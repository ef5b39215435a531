import StagedMocks.Text.Basic

/-!
Wildcard patterns.

A question mark stands for one character, a star for any number of them, and
brackets for one character out of a set or outside it. Two stars are a whole
component of a path and stand for directories of any depth. All other characters
stand for themselves.
-/
namespace StagedMocks.Glob

structure CharRange where
  low : Char
  high : Char
  deriving DecidableEq, Repr

def CharRange.has (range : CharRange) (c : Char) : Bool :=
  range.low ≤ c && c ≤ range.high

inductive Token where
  | char (c : Char)
  | anyChar
  | anySequence
  | anyDirectories
  | within (ranges : List CharRange)
  | outside (ranges : List CharRange)
  deriving DecidableEq, Repr

namespace Token

def hasChar (c : Char) : Token → Bool
  | .char d => c = d
  | .anyChar => true
  | .within ranges => ranges.any (·.has c)
  | .outside ranges => !ranges.any (·.has c)
  | .anySequence | .anyDirectories => false

/-- What can remain behind a token in texts that are ends of one text, from the longest on. -/
def behind (rests : List Text) : Token → List Text
  | .anySequence | .anyDirectories => (rests.head?.map Text.ends).getD []
  | token => rests.filterMap fun
      | c :: rest => if token.hasChar c then some rest else none
      | [] => none

end Token

abbrev Pattern := List Token

inductive Flaw where
  | wildcards
  | recursive
  | range
  deriving DecidableEq, Repr

namespace Flaw

def label : Flaw → String
  | .wildcards => "wildcards are either regular `*` or recursive `**`"
  | .recursive => "recursive wildcards must form a single path component"
  | .range => "invalid range pattern"

end Flaw

/-- A flaw and the number of characters before it. -/
structure Refusal where
  position : Nat
  flaw : Flaw
  deriving DecidableEq, Repr

namespace Refusal

def message (refusal : Refusal) : Text :=
  "Pattern syntax error near position ".toList ++ Text.ofNat refusal.position ++ ": ".toList ++
    refusal.flaw.label.toList

end Refusal

/-- The ranges in a pair of brackets: single characters, and pairs joined by a hyphen. -/
def ranges : Text → List CharRange
  | a :: '-' :: b :: s => ⟨a, b⟩ :: ranges s
  | a :: s => ⟨a, a⟩ :: ranges s
  | [] => []

/-- Reads the rest of brackets up to the closing one. The first character belongs to the set, even if
it is a bracket. -/
def bracketed? : Text → Option (Text × Text)
  | [] => none
  | c :: s =>
      match s.span (· != ']') with
      | (inside, ']' :: rest) => some (c :: inside, rest)
      | _ => none

def set? : Text → Option (Token × Text)
  | '!' :: s => (bracketed? s).map fun (inside, rest) => (.outside (ranges inside), rest)
  | s => (bracketed? s).map fun (inside, rest) => (.within (ranges inside), rest)

/-- Reads one or two stars that are `run` in number. -/
def stars (position run : Nat) (previous : Option Char) (rest : Text) :
    Except Refusal (Token × Text) :=
  if run = 1 then .ok (.anySequence, rest)
  else if 2 < run then .error ⟨position + 2, .wildcards⟩
  else if previous.isSome && previous != some '/' then .error ⟨position - 1, .recursive⟩
  else
    match rest with
    | [] => .ok (.anyDirectories, [])
    | '/' :: behind => .ok (.anyDirectories, behind)
    | _ => .error ⟨position + 2, .recursive⟩

def token (position : Nat) (previous : Option Char) : Text → Except Refusal (Option (Token × Text))
  | [] => .ok none
  | '?' :: s => .ok (some (.anyChar, s))
  | '[' :: s =>
      match set? s with
      | some found => .ok (some found)
      | none => .error ⟨position, .range⟩
  | '*' :: s => do
      let more := s.takeWhile (· == '*')
      some <$> stars position (more.length + 1) previous (s.drop more.length)
  | c :: s => .ok (some (.char c, s))

def tokens : Nat → Nat → Option Char → Text → Except Refusal Pattern
  | 0, _, _, _ => .ok []
  | limit + 1, position, previous, s => do
      match ← token position previous s with
      | none => return []
      | some (first, rest) =>
          let taken := s.take (s.length - rest.length)
          return first :: (← tokens limit (position + taken.length) taken.getLast? rest)

def Pattern.read (s : Text) : Except Refusal Pattern :=
  tokens s.length 0 none s

namespace Pattern

/-- The text that is the only one to match, if the pattern has no wildcards. -/
def literal? (pattern : Pattern) : Option Text :=
  pattern.mapM fun
    | .char c => some c
    | _ => none

def isRecursive (pattern : Pattern) : Bool :=
  pattern.contains .anyDirectories

/-- Whether a name matches: some way to read all tokens leaves nothing. -/
def accepts (pattern : Pattern) (name : Text) : Bool :=
  (pattern.foldl (fun rests token => token.behind rests) [name]).any List.isEmpty

end Pattern

end StagedMocks.Glob
