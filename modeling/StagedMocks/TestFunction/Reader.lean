import StagedMocks.Scan
import StagedMocks.TestFunction.Basic

/-!
Finding the test functions of a source text.

A header is `func test_` with a name and an empty parameter list, effect keywords
each after at least one blank, and an opening brace. The body ends at the first
closing line: a line feed, exactly four blanks of any kind, and a brace. Nested
blocks are not looked at, so an inner brace at that depth ends the function.
-/
namespace StagedMocks.TestFunction

def testOpening : Text := "func test_".toList

/-- The letters, digits and underscores of ASCII, of which names are made. -/
def isNameChar (c : Char) : Bool :=
  c.isAlphanum || c == '_'

def declaration? (s : Text) : Option (Text × Text) := do
  let rest ← Text.after? testOpening s
  let name := rest.takeWhile isNameChar
  if name.isEmpty then none
  else do
    let behind ← Text.after? emptyParameters (rest.dropWhile isNameChar)
    return (testOpening ++ name ++ emptyParameters, behind)

def keyword? (s : Text) : Option (Text × Text) :=
  let async := "async".toList
  let throws := "throws".toList
  match Text.after? async s with
  | some rest => some (async, rest)
  | none => (Text.after? throws s).map fun rest => (throws, rest)

def effect? (s : Text) : Option (Text × Text) :=
  let blanks := s.takeWhile Text.isBlank
  if blanks.isEmpty then none
  else (keyword? (s.dropWhile Text.isBlank)).map fun (keyword, rest) => (blanks ++ keyword, rest)

def effectsUpTo : Nat → Text → Text × Text
  | 0, s => ([], s)
  | limit + 1, s =>
      match effect? s with
      | some (effect, rest) =>
          let (more, behind) := effectsUpTo limit rest
          (effect ++ more, behind)
      | none => ([], s)

/-- Reads all effects in a row; each takes at least one character. -/
def readEffects (s : Text) : Text × Text :=
  effectsUpTo s.length s

def closing? : Text → Option (Text × Text)
  | '\n' :: a :: b :: c :: d :: '}' :: rest =>
      if [a, b, c, d].all Text.isBlank then some (['\n', a, b, c, d, '}'], rest) else none
  | _ => none

/-- Reads the body up to the first closing line, and that line. -/
def bodyAndClosing? : Text → Option (Text × Text)
  | [] => none
  | c :: s =>
      match closing? (c :: s) with
      | some (closing, _) => some ([], closing)
      | none => (bodyAndClosing? s).map fun (body, closing) => (c :: body, closing)

def read? (s : Text) : Option TestFunction := do
  let (declaration, signature) ← declaration? s
  let (effects, opening) := readEffects signature
  let blanks := opening.takeWhile Text.isBlank
  let inside ← Text.after? ['{'] (opening.dropWhile Text.isBlank)
  let (body, closing) ← bodyAndClosing? inside
  let header := declaration ++ effects ++ blanks ++ ['{']
  return { header, declaration, effects, body, text := header ++ body ++ closing }

/-- The test functions of a source, in order, with their byte offsets. -/
def findAll (source : Text) : List (Scan.Located TestFunction) :=
  Scan.all read? TestFunction.text source

end StagedMocks.TestFunction
