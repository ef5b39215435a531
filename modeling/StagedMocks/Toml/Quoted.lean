import StagedMocks.Text.Basic

/-!
Quoted strings of TOML: four forms, each with its own opening, content and end.

A content is read in units: a unit stands for some characters and takes at least
one. A string of the two long forms may end in quotes of its own kind, at most two.
-/
namespace StagedMocks.Toml

/-- Space and tab, the only blanks inside a line. -/
def isSpace (c : Char) : Bool :=
  c == ' ' || c == '\t'

/-- ASCII control characters other than tab. -/
def isControl (c : Char) : Bool :=
  (c.toNat < 0x20 && c != '\t') || c.toNat == 0x7F

/-- The length of a line feed, alone or behind a carriage return, at the beginning of a text. -/
def lineFeedLength : Text → Nat
  | '\n' :: _ => 1
  | '\r' :: '\n' :: _ => 2
  | _ => 0

def dropLineFeed (s : Text) : Text :=
  s.drop (lineFeedLength s)

/-- Reads units up to an end. `stop?` recognises the end and gives the last characters and the rest;
`unit?` gives the characters of a unit and how many it takes. The first `skip` characters belong to
an earlier unit. -/
def content? (stop? : Text → Option (Text × Text)) (unit? : Text → Option (Text × Nat)) :
    Nat → Text → Option (Text × Text)
  | _, [] => none
  | skip + 1, _ :: s => content? stop? unit? skip s
  | 0, c :: s =>
      match stop? (c :: s) with
      | some found => some found
      | none => do
          let (chars, length) ← unit? (c :: s)
          let (more, rest) ← content? stop? unit? (length - 1) s
          return (chars ++ more, rest)

def shortEnd (quote : Char) : Text → Option (Text × Text)
  | c :: rest => if c = quote then some ([], rest) else none
  | [] => none

/-- The end of a long string: three quotes, and before them at most two that belong to it. -/
def longEnd (quote : Char) (s : Text) : Option (Text × Text) :=
  let run := (s.takeWhile (· == quote)).length
  if run < 3 then none
  else
    let own := min 2 (run - 3)
    some (List.replicate own quote, s.drop (own + 3))

def hexValue? (c : Char) : Option Nat :=
  if '0' ≤ c ∧ c ≤ '9' then some (c.toNat - '0'.toNat)
  else if 'a' ≤ c ∧ c ≤ 'f' then some (c.toNat - 'a'.toNat + 10)
  else if 'A' ≤ c ∧ c ≤ 'F' then some (c.toNat - 'A'.toNat + 10)
  else none

def codedChar? (count : Nat) (s : Text) : Option Char := do
  let digits ← (s.take count).mapM hexValue?
  let code := digits.foldl (fun value digit => 16 * value + digit) 0
  if digits.length = count ∧ code.isValidChar then return Char.ofNat code else none

def letterEscape? : Char → Option Char
  | 'b' => some '\x08'
  | 't' => some '\t'
  | 'n' => some '\n'
  | 'f' => some '\x0c'
  | 'r' => some '\r'
  | '"' => some '"'
  | '\\' => some '\\'
  | _ => none

def escape? : Text → Option (Text × Nat)
  | '\\' :: 'u' :: s => (codedChar? 4 s).map fun c => ([c], 6)
  | '\\' :: 'U' :: s => (codedChar? 8 s).map fun c => ([c], 10)
  | '\\' :: c :: _ => (letterEscape? c).map fun c => ([c], 2)
  | _ => none

def fillerLength : Text → Nat
  | '\r' :: '\n' :: s => fillerLength s + 2
  | c :: s => if isSpace c || c == '\n' then fillerLength s + 1 else 0
  | [] => 0

/-- A backslash at the end of a line hides the line feed and all blanks behind it. -/
def hiddenLineFeed? : Text → Option (Text × Nat)
  | '\\' :: s =>
      let blanks := (s.takeWhile isSpace).length
      if lineFeedLength (s.drop blanks) = 0 then none else some ([], fillerLength s + 1)
  | _ => none

def plain? (isPlain : Char → Bool) : Text → Option (Text × Nat)
  | c :: _ => if isPlain c then some ([c], 1) else none
  | [] => none

/-- A line feed in a long string is read without its carriage return. -/
def lineFeed? (s : Text) : Option (Text × Nat) :=
  match lineFeedLength s with
  | 0 => none
  | length => some (['\n'], length)

inductive Form where
  | basic
  | literal
  | longBasic
  | longLiteral
  deriving DecidableEq, Repr

namespace Form

def delimiter : Form → Text
  | .basic => ['"']
  | .literal => ['\'']
  | .longBasic => ['"', '"', '"']
  | .longLiteral => ['\'', '\'', '\'']

def stop? : Form → Text → Option (Text × Text)
  | .basic => shortEnd '"'
  | .literal => shortEnd '\''
  | .longBasic => longEnd '"'
  | .longLiteral => longEnd '\''

def unit? : Form → Text → Option (Text × Nat)
  | .basic, s => escape? s <|> plain? (fun c => !isControl c && c != '\\') s
  | .literal, s => plain? (!isControl ·) s
  | .longBasic, s =>
      hiddenLineFeed? s <|> escape? s <|> lineFeed? s <|>
        plain? (fun c => !isControl c && c != '\\') s
  | .longLiteral, s => lineFeed? s <|> plain? (!isControl ·) s

/-- What comes before the content: a line feed right behind a long opening does not count. -/
def isLong : Form → Bool
  | .basic | .literal => false
  | .longBasic | .longLiteral => true

def read? (form : Form) (s : Text) : Option (Text × Text) := do
  let rest ← Text.after? form.delimiter s
  content? form.stop? form.unit? 0 (if form.isLong then dropLineFeed rest else rest)

def of? (s : Text) : Option Form :=
  if (Text.after? Form.longBasic.delimiter s).isSome then some .longBasic
  else if (Text.after? Form.longLiteral.delimiter s).isSome then some .longLiteral
  else if s.head? = some '"' then some .basic
  else if s.head? = some '\'' then some .literal
  else none

end Form

def string? (s : Text) : Option (Text × Text) := do
  (← Form.of? s).read? s

end StagedMocks.Toml
