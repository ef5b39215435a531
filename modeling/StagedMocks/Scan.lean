import StagedMocks.Text.Basic

/-!
Leftmost scanning: a reader is tried at every position from the left, and the
search goes on behind what it has read, so the finds do not overlap.

A reader looks at the text from a position on. What it reads is spelled by
`text`, which has to be a non-empty beginning of what it looked at.
-/
namespace StagedMocks.Scan

variable {α : Type}

/-- A scanned text is a sequence of characters that were passed over and of finds. -/
inductive Piece (α : Type) where
  | plain (c : Char)
  | found (a : α)

/-- The pieces of a text, of which the first `skip` characters belong to an earlier find. -/
def pieces (read? : Text → Option α) (text : α → Text) : Nat → Text → List (Piece α)
  | _, [] => []
  | skip + 1, _ :: s => pieces read? text skip s
  | 0, c :: s =>
      match read? (c :: s) with
      | some a => .found a :: pieces read? text ((text a).length - 1) s
      | none => .plain c :: pieces read? text 0 s

structure Located (α : Type) where
  start : Nat
  value : α

/-- The finds among pieces of which the first one starts at byte `offset`. -/
def locate (text : α → Text) : Nat → List (Piece α) → List (Located α)
  | _, [] => []
  | offset, .plain c :: rest => locate text (offset + c.utf8Size) rest
  | offset, .found a :: rest => ⟨offset, a⟩ :: locate text (offset + (text a).byteLength) rest

def all (read? : Text → Option α) (text : α → Text) (s : Text) : List (Located α) :=
  locate text 0 (pieces read? text 0 s)

/-- The first find in a text, with what stands before and behind it. -/
def first? (read? : Text → Option α) (text : α → Text) : Text → Option (Text × α × Text)
  | [] => none
  | c :: s =>
      match read? (c :: s) with
      | some a => some ([], a, (c :: s).drop (text a).length)
      | none => (first? read? text s).map fun (before, a, behind) => (c :: before, a, behind)

def replaceFirst (read? : Text → Option α) (text : α → Text) (new s : Text) : Text :=
  match first? read? text s with
  | some (before, _, behind) => before ++ new ++ behind
  | none => s

end StagedMocks.Scan
