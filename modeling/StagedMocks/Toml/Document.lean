import StagedMocks.Toml.Value

/-!
Reading TOML documents.

A document is a sequence of lines: a header, a key with its value, or nothing,
each with an optional comment. Values nest and keys are dotted to a limited depth.
-/
namespace StagedMocks.Toml

/-- The greatest number of parts of a key, and of arrays and inline tables inside each other. -/
def depthLimit : Nat := 79

def skipSpaces (s : Text) : Text :=
  s.dropWhile isSpace

def skipComment : Text → Text
  | '#' :: s => s.dropWhile (!isControl ·)
  | s => s

/-- Reads the rest of a line that holds nothing but blanks and a comment. -/
def lineEnd? (s : Text) : Option Text :=
  match skipComment (skipSpaces s) with
  | [] => some []
  | rest => if lineFeedLength rest = 0 then none else some (dropLineFeed rest)

def skipFiller (inComment : Bool) : Text → Text
  | [] => []
  | c :: s =>
      if inComment && !isControl c then skipFiller true s
      else if isSpace c || c == '\n' then skipFiller false s
      else if c == '#' then skipFiller true s
      else
        match c, s with
        | '\r', '\n' :: rest => skipFiller false rest
        | _, _ => c :: s

def isBareKeyChar (c : Char) : Bool :=
  c.isAlphanum || c == '_' || c == '-'

def keyPart? (s : Text) : Option (Text × Text) :=
  match s.head? with
  | some '"' => Form.basic.read? s
  | some '\'' => Form.literal.read? s
  | _ =>
      let bare := s.takeWhile isBareKeyChar
      if bare.isEmpty then none else some (bare, s.dropWhile isBareKeyChar)

/-- Reads a key of at most `limit` parts, and the blanks around each. The last part is given
apart. -/
def key? : Nat → Text → Option ((List Text × Text) × Text)
  | 0, _ => none
  | limit + 1, s => do
      let (part, behind) ← keyPart? (skipSpaces s)
      match skipSpaces behind with
      | '.' :: more =>
          let ((path, last), rest) ← key? limit more
          return ((part :: path, last), rest)
      | rest => return (([], part), rest)

def items? (value? : Text → Option (Value × Text)) : Nat → Text → Option (List Value × Text)
  | 0, _ => none
  | limit + 1, s =>
      match skipFiller false s with
      | ']' :: rest => some ([], rest)
      | s => do
          let (value, behind) ← value? s
          match skipFiller false behind with
          | ',' :: more =>
              let (values, rest) ← items? value? limit more
              return (value :: values, rest)
          | ']' :: rest => return ([value], rest)
          | _ => none

def pair? (value? : Text → Option (Value × Text)) (s : Text) :
    Option ((List Text × Text × Value) × Text) := do
  let ((path, last), rest) ← key? depthLimit s
  let (value, rest) ← value? (skipSpaces (← Text.after? ['='] rest))
  return ((path, last, value), rest)

/-- Reads the pairs of an inline table up to its brace into `table`. There are at most `limit`. -/
def pairs? (value? : Text → Option (Value × Text)) :
    Nat → Value → Text → Option (Value × Text)
  | 0, _, _ => none
  | limit + 1, table, s => do
      let ((path, last, value), behind) ← pair? value? s
      let extended ← Value.insert path last value table
      match skipSpaces behind with
      | ',' :: more => pairs? value? limit extended more
      | '}' :: rest => return (extended, rest)
      | _ => none

def boolean? (s : Text) : Option (Bool × Text) :=
  match Text.after? "true".toList s with
  | some rest => some (true, rest)
  | none => (Text.after? "false".toList s).map fun rest => (false, rest)

def scalar? (s : Text) : Option (Scalar × Text) :=
  ((string? s).map fun (text, rest) => (.string text, rest)) <|>
  ((boolean? s).map fun (value, rest) => (.boolean value, rest)) <|>
  ((Moment.read? s).map fun (moment, rest) => (.moment moment, rest)) <|>
  ((Number.read? s).map fun (number, rest) => (.number number, rest))

/-- Reads a value with at most `depth` arrays and inline tables inside each other. -/
def value? : Nat → Text → Option (Value × Text)
  | depth + 1, '[' :: s =>
      (items? (value? depth) (s.length + 1) s).map fun (items, rest) => (.array items, rest)
  | depth + 1, '{' :: s =>
      match skipSpaces s with
      | '}' :: rest => some (.table .inline [], rest)
      | s => pairs? (value? depth) (s.length + 1) (.table .inline []) s
  | _, s => (scalar? s).map fun (scalar, rest) => (.scalar scalar, rest)

structure Draft where
  root : Value
  header : List Text

namespace Draft

def empty : Draft := ⟨.table .header [], []⟩

/-- Goes on under a header; `isRepeated` says that its tables make a list. -/
def openHeader (draft : Draft) (isRepeated : Bool) (path : List Text) (key : Text) : Option Draft := do
  let change := if isRepeated then Value.openNext key else Value.openTable key
  return ⟨← draft.root.changeAt false change path, path ++ [key]⟩

def addPair (draft : Draft) (path : List Text) (key : Text) (value : Value) : Option Draft := do
  let root ← draft.root.changeAt false (Value.insert path key value) draft.header
  return { draft with root }

def line? (draft : Draft) : Text → Option (Draft × Text)
  | '[' :: '[' :: s => do
      let ((path, key), rest) ← key? depthLimit s
      return (← draft.openHeader true path key, ← Text.after? [']', ']'] rest)
  | '[' :: s => do
      let ((path, key), rest) ← key? depthLimit s
      return (← draft.openHeader false path key, ← Text.after? [']'] rest)
  | s => do
      let ((path, key, value), rest) ← pair? (value? depthLimit) s
      return (← draft.addPair path key value, rest)

def lines? (draft : Draft) : Nat → Text → Option Draft
  | 0, _ => none
  | limit + 1, s =>
      match skipSpaces s with
      | [] => some draft
      | s =>
          match lineEnd? s with
          | some rest => lines? draft limit rest
          | none => do
              let (next, behind) ← draft.line? s
              lines? next limit (← lineEnd? behind)

end Draft

/-- Reads a whole document, of which a byte order mark may be the first character. -/
def document? (s : Text) : Option Value.Entries :=
  let s := if s.head? = some '\uFEFF' then s.tail else s
  match Draft.empty.lines? (s.length + 1) s with
  | some ⟨.table _ entries, _⟩ => some entries
  | _ => none

end StagedMocks.Toml
