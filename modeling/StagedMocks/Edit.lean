import StagedMocks.Text.Basic

/-!
Edits of a text, each the exchange of a byte range for a new text.

Edits are taken in the order of their starts. One that overlaps an edit taken
before it, or whose range is no range of the text, has no effect.
-/
namespace StagedMocks

structure Edit where
  start : Nat
  finish : Nat
  text : Text
  deriving DecidableEq, Repr

namespace Edit

/-- A range that does not begin and end at character boundaries of the text. -/
inductive Fault where
  | offBoundary
  deriving DecidableEq, Repr

/-- The edit of a range, or none if it would leave the text as it is. -/
def ofChange? (source : Text) (start finish : Nat) (text : Text) : Except Fault (Option Edit) :=
  match Text.slice? start finish source with
  | none => .error .offBoundary
  | some old => .ok (if old = text then none else some ⟨start, finish, text⟩)

/-- Edits in the order of their starts; those with equal starts keep their order. -/
def inOrder (edits : List Edit) : List Edit :=
  edits.mergeSort fun a b => a.start ≤ b.start

/-- Whether an edit can be taken in a text of `size` bytes when all bytes before `position` are
settled. -/
def Fits (position size : Nat) (edit : Edit) : Prop :=
  position ≤ edit.start ∧ edit.start ≤ edit.finish ∧ edit.finish ≤ size

instance (position size : Nat) (edit : Edit) : Decidable (Fits position size edit) :=
  inferInstanceAs (Decidable (_ ∧ _ ∧ _))

/-- Applies sorted edits to `rest`, the part from `position` on of a text of `size` bytes. -/
def applyFrom (size position : Nat) (rest : Text) : List Edit → Except Fault Text
  | [] => .ok rest
  | edit :: edits =>
      if edit.Fits position size then
        match Text.cutAt? (edit.start - position) rest with
        | none => .error .offBoundary
        | some (kept, tail) =>
            match Text.cutAt? (edit.finish - edit.start) tail with
            | none => .error .offBoundary
            | some (_, behind) => do
                let done ← applyFrom size edit.finish behind edits
                return kept ++ edit.text ++ done
      else applyFrom size position rest edits

def applyAll (source : Text) (edits : List Edit) : Except Fault Text :=
  applyFrom source.byteLength 0 source (inOrder edits)

end Edit

end StagedMocks
