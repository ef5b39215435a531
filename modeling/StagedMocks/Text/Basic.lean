/-!
Texts as lists of characters, measured in the bytes of their UTF-8 form.

A cut at a byte offset exists only at a character boundary, so an offset that
comes from outside can fail here and nowhere else.
-/
namespace StagedMocks

abbrev Text := List Char

namespace Text

/-- The number of bytes a text takes in UTF-8. -/
def byteLength : Text → Nat
  | [] => 0
  | c :: s => c.utf8Size + byteLength s

/-- The two parts of a text around a byte offset, if the offset is a character boundary. -/
def cutAt? : Nat → Text → Option (Text × Text)
  | 0, s => some ([], s)
  | _ + 1, [] => none
  | n + 1, c :: s =>
      if c.utf8Size ≤ n + 1 then
        (cutAt? (n + 1 - c.utf8Size) s).map fun (front, back) => (c :: front, back)
      else none

def dropAt? : Nat → Text → Option Text
  | 0, s => some s
  | _ + 1, [] => none
  | n + 1, c :: s => if c.utf8Size ≤ n + 1 then dropAt? (n + 1 - c.utf8Size) s else none

/-- The bytes from `start` up to `finish`, if both are character boundaries in this order. -/
def slice? (start finish : Nat) (s : Text) : Option Text :=
  if start ≤ finish then do
    let rest ← dropAt? start s
    let (middle, _) ← cutAt? (finish - start) rest
    return middle
  else none

def after? : Text → Text → Option Text
  | [], s => some s
  | _ :: _, [] => none
  | o :: opening, c :: s => if o = c then after? opening s else none

/-- A text from each position on, the longest first. -/
def ends : Text → List Text
  | [] => [[]]
  | c :: s => (c :: s) :: ends s

def occursIn (part s : Text) : Bool :=
  (ends s).any part.isPrefixOf

/-- The pieces between the occurrences of a separator; always at least one. -/
def splitAt (separator : Char) (s : Text) : List Text :=
  s.splitOnP (· == separator)

def endsWith (c : Char) (s : Text) : Bool :=
  s.getLast? == some c

def ofNat (n : Nat) : Text :=
  Nat.toDigits 10 n

/-- The byte order of UTF-8 texts, which is the order of their code points. -/
def le (a b : Text) : Bool :=
  decide (List.le a b)

end Text

end StagedMocks
