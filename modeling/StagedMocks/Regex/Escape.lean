import StagedMocks.Regex.Cursor

/-!
Reading what stands behind a backslash.
-/
namespace StagedMocks.Regex.Escape

def hexDigit? (c : Char) : Option Nat :=
  if c.isDigit then some (c.toNat - '0'.toNat)
  else if 'a' ≤ c && c ≤ 'f' then some (c.toNat - 'a'.toNat + 10)
  else if 'A' ≤ c && c ≤ 'F' then some (c.toNat - 'A'.toNat + 10)
  else none

def isHexDigit (c : Char) : Bool :=
  (hexDigit? c).isSome

def hexValue (digits : Text) : Nat :=
  digits.foldl (fun value c => 16 * value + (hexDigit? c).getD 0) 0

def char? (n : Nat) : Option Char :=
  if n.isValidChar then some (Char.ofNat n) else none

/-- Reads the digits that are left of a number of fixed length. -/
def fixedDigits (isSpaced : Bool) : Nat → Cursor → Reading (Text × Cursor)
  | 0, cursor => .ok ([], cursor)
  | count + 1, cursor =>
      match cursor.next? with
      | none => refuse .escapeUnfinished cursor.here
      | some c =>
          if isHexDigit c then do
            let (more, behind) ← fixedDigits isSpaced count (cursor.advance isSpaced)
            return (c :: more, behind)
          else refuse .hexDigit cursor.nextSpan

/-- Reads a character by a number of so many digits. -/
def fixedHex (isSpaced : Bool) (count start : Nat) (cursor : Cursor) : Reading (Literal × Cursor) := do
  let (digits, behind) ← fixedDigits isSpaced count cursor
  match char? (hexValue digits) with
  | some c => return (⟨behind.since start, c, count = 2⟩, behind)
  | none => refuse .hexNotAChar (behind.since cursor.position)

/-- Reads a character by its number in braces, from the opening brace on. -/
def bracedHex (isSpaced : Bool) (start : Nat) (cursor : Cursor) : Reading (Literal × Cursor) := do
  let inside := cursor.advance isSpaced
  let (digits, behind) := inside.takeWhile isSpaced isHexDigit inside.rest.length
  match behind.next? with
  | none => refuse .escapeUnfinished (behind.since cursor.position)
  | some '}' =>
      let final := behind.advance isSpaced
      if digits.isEmpty then refuse .hexEmpty (final.since cursor.position)
      else
        match char? (hexValue digits) with
        | some c => return (⟨final.since start, c, false⟩, final)
        | none => refuse .hexNotAChar (behind.since (cursor.position + 1))
  | some _ => refuse .hexDigit behind.nextSpan

/-- Reads a character by its number, from the letter on that says how many digits it has. -/
def hex (isSpaced : Bool) (count start : Nat) (cursor : Cursor) : Reading (Literal × Cursor) :=
  let behind := cursor.advance isSpaced
  match behind.next? with
  | none => refuse .escapeUnfinished behind.here
  | some '{' => bracedHex isSpaced start behind
  | some _ => fixedHex isSpaced count start behind

def split? (separator : Text) : Text → Option (Text × Text)
  | [] => none
  | c :: s =>
      if separator.isPrefixOf (c :: s) then some ([], (c :: s).drop separator.length)
      else (split? separator s).map fun (before, behind) => (c :: before, behind)

def query (s : Text) : PropertyQuery :=
  match split? ['!', '='] s <|> split? [':'] s <|> split? ['='] s with
  | some (name, value) => .valued name value
  | none => .named s

def property (isSpaced isNegated : Bool) (start : Nat) (cursor : Cursor) :
    Reading (Leaf × Cursor) :=
  let behind := cursor.advance isSpaced
  match behind.next? with
  | none => refuse .escapeUnfinished behind.here
  | some '{' =>
      let inside := behind.advance isSpaced
      let (name, ending) := inside.takeWhile isSpaced (· != '}') inside.rest.length
      if ending.isAtEnd then refuse .escapeUnfinished ending.here
      else
        let final := ending.skip 1
        .ok (.property (final.since start) isNegated (query name), final)
  | some '\\' => refuse .propertyForm behind.nextSpan
  | some c =>
      let final := behind.advance isSpaced
      .ok (.property (final.since start) isNegated (.named [c]), final)

def isBoundaryChar (c : Char) : Bool :=
  c.isAlpha || c == '-'

def boundary? (name : Text) : Option Assertion :=
  if name = "start".toList then some .wordStart
  else if name = "end".toList then some .wordEnd
  else if name = "start-half".toList then some .wordStartHalf
  else if name = "end-half".toList then some .wordEndHalf
  else none

/-- Reads the name of a word boundary in braces, if braces with a name follow. -/
def boundary (isSpaced : Bool) (start : Nat) (cursor : Cursor) : Reading (Leaf × Cursor) :=
  let plain := Leaf.assertion (cursor.since start) .wordBoundary
  if cursor.next? != some '{' then .ok (plain, cursor)
  else
    let inside := cursor.advance isSpaced
    match inside.next? with
    | none => refuse .boundaryUnfinished (inside.since start)
    | some c =>
        if !isBoundaryChar c then .ok (plain, cursor)
        else
          let (name, ending) := inside.takeWhile isSpaced isBoundaryChar inside.rest.length
          if ending.next? != some '}' then refuse .boundaryUnclosed (ending.since cursor.position)
          else
            match boundary? name with
            | some assertion =>
                let final := ending.skip 1
                .ok (.assertion (final.since start) assertion, final)
            | none => refuse .boundaryUnknown (ending.since inside.position)

/-- The characters that have a meaning of their own in expressions. -/
def isSpecial (c : Char) : Bool :=
  "\\.+*?()|[]\x7b\x7d^$#&-~".toList.contains c

/-- The characters that stand for themselves behind a backslash. -/
def isPlain (c : Char) : Bool :=
  isSpecial c || c.toNat < 128 && !c.isAlphanum && c != '<' && c != '>'

def control? : Char → Option Char
  | 'a' => some '\x07'
  | 'f' => some '\x0c'
  | 't' => some '\t'
  | 'n' => some '\n'
  | 'r' => some '\r'
  | 'v' => some '\x0b'
  | _ => none

def assertion? : Char → Option Assertion
  | 'A' => some .textStart
  | 'z' => some .textEnd
  | 'B' => some .noWordBoundary
  | '<' => some .wordStart
  | '>' => some .wordEnd
  | _ => none

def lettered? : Char → Option (Bool × LetteredSet)
  | 'd' => some (false, .digit)
  | 'D' => some (true, .digit)
  | 's' => some (false, .blank)
  | 'S' => some (true, .blank)
  | 'w' => some (false, .word)
  | 'W' => some (true, .word)
  | _ => none

/-- Reads what needs one character behind the backslash. -/
def single (start : Nat) (c : Char) (cursor : Cursor) : Reading (Leaf × Cursor) :=
  let behind := cursor.skip 1
  let span := behind.since start
  match lettered? c, control? c, assertion? c with
  | some (isNegated, set), _, _ => .ok (.lettered span isNegated set, behind)
  | _, some control, _ => .ok (.literal ⟨span, control, false⟩, behind)
  | _, _, some assertion => .ok (.assertion span assertion, behind)
  | _, _, _ =>
      if isPlain c then .ok (.literal ⟨span, c, false⟩, behind)
      else refuse .escapeUnknown span

def read (isSpaced : Bool) (cursor : Cursor) : Reading (Leaf × Cursor) :=
  let start := cursor.position
  let letter := cursor.skip 1
  let literal (result : Reading (Literal × Cursor)) : Reading (Leaf × Cursor) :=
    result.map fun (literal, behind) => (.literal literal, behind)
  match letter.next? with
  | none => refuse .escapeUnfinished (letter.since start)
  | some 'x' => literal (hex isSpaced 2 start letter)
  | some 'u' => literal (hex isSpaced 4 start letter)
  | some 'U' => literal (hex isSpaced 8 start letter)
  | some 'p' => property isSpaced false start letter
  | some 'P' => property isSpaced true start letter
  | some 'b' => boundary isSpaced start (letter.skip 1)
  | some c =>
      if c.isDigit then refuse .backreference ⟨start, start + 2⟩
      else single start c letter

end StagedMocks.Regex.Escape
