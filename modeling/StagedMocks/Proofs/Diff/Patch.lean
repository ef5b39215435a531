import Mathlib.Data.List.Infix
import StagedMocks.Proofs.Diff.Hunk

/-!
Patching a text by hunks, and taking the patch back. A hunk goes where its ranges say and nowhere
else, and it finds its old lines there. A patch applies to lines and gives other lines just if its
hunks exchange the ones for the others.
-/
namespace StagedMocks.Diff

/-- The lines that hunks make of those given, where `x` and `y` lines stand before them in the old
and in the new text. -/
def applyFrom? (x y : Nat) : List Hunk → List Line → Option (List Line)
  | [], rest => some rest
  | hunk :: hunks, rest =>
      let between := rest.take (hunk.oldStart - x)
      if hunk.oldStart = x + between.length ∧ hunk.newStart = y + between.length ∧
          hunk.oldCount = (shownOn .old hunk.lines).length ∧
          hunk.newCount = (shownOn .new hunk.lines).length then do
        let behind ← (shownOn .old hunk.lines).isPrefixOf? (rest.drop (hunk.oldStart - x))
        let applied ← applyFrom? (hunk.oldStart + hunk.oldCount) (hunk.newStart + hunk.newCount)
          hunks behind
        return between ++ shownOn .new hunk.lines ++ applied
      else none

/-- The text that hunks make of another. -/
def patched? (hunks : List Hunk) (text : Text) : Option Text :=
  (applyFrom? 0 0 hunks (lines text)).map List.flatten

/-- The line that leads back. -/
def HunkLine.reversed : HunkLine → HunkLine
  | .context line => .context line
  | .deleted line => .inserted line
  | .inserted line => .deleted line

/-- The hunk that leads back. -/
def Hunk.reversed (hunk : Hunk) : Hunk where
  oldStart := hunk.newStart
  oldCount := hunk.newCount
  newStart := hunk.oldStart
  newCount := hunk.oldCount
  lines := hunk.lines.map HunkLine.reversed

theorem flatten_lines (text : Text) : (lines text).flatten = text := by
  induction text with
  | nil => rfl
  | cons c text ih =>
      rw [lines]
      split
      · rename_i hc
        rw [List.flatten_cons, ih, hc]
        rfl
      · cases hlines : lines text with
        | nil =>
            rw [hlines] at ih
            rw [← ih]
            rfl
        | cons line rest =>
            rw [hlines] at ih
            rw [← ih]
            rfl

theorem applyFrom?_cons_eq_some_iff {x y : Nat} {hunk : Hunk} {hunks : List Hunk}
    {old new : List Line} :
    applyFrom? x y (hunk :: hunks) old = some new ↔
      ∃ between oldRest newRest, old = between ++ shownOn .old hunk.lines ++ oldRest ∧
        new = between ++ shownOn .new hunk.lines ++ newRest ∧
        hunk.oldStart = x + between.length ∧ hunk.newStart = y + between.length ∧
        hunk.oldCount = (shownOn .old hunk.lines).length ∧
        hunk.newCount = (shownOn .new hunk.lines).length ∧
        applyFrom? (hunk.oldStart + hunk.oldCount) (hunk.newStart + hunk.newCount) hunks oldRest =
          some newRest := by
  constructor
  · intro h
    rw [applyFrom?] at h
    split at h
    · rename_i hplaces
      obtain ⟨oldRest, hbehind, h⟩ := Option.bind_eq_some_iff.mp h
      obtain ⟨newRest, hrest, h⟩ := Option.bind_eq_some_iff.mp h
      have hold := List.isPrefixOf?_eq_some_iff_append_eq.mp hbehind
      refine ⟨old.take (hunk.oldStart - x), oldRest, newRest, ?_, (Option.some.inj h).symm,
        hplaces.1, hplaces.2.1, hplaces.2.2.1, hplaces.2.2.2, hrest⟩
      rw [List.append_assoc, hold, List.take_append_drop]
    · cases h
  · rintro ⟨between, oldRest, newRest, rfl, rfl, holdStart, hnewStart, holdCount, hnewCount, hrest⟩
    have hgap : hunk.oldStart - x = between.length := by omega
    have hbehind : (shownOn .old hunk.lines).isPrefixOf? (shownOn .old hunk.lines ++ oldRest) =
        some oldRest := List.isPrefixOf?_eq_some_iff_append_eq.mpr rfl
    rw [applyFrom?, List.append_assoc, hgap, List.take_left, List.drop_left,
      if_pos ⟨holdStart, hnewStart, holdCount, hnewCount⟩, hbehind]
    simp [hrest]

/-- A patch applies just if its hunks exchange the lines. -/
theorem applyFrom?_eq_some_iff {x y : Nat} {hunks : List Hunk} {old new : List Line} :
    applyFrom? x y hunks old = some new ↔ Patches x y old new hunks := by
  induction hunks generalizing x y old new with
  | nil =>
      constructor
      · intro h
        obtain rfl := Option.some.inj h
        exact .none
      · intro h
        cases h
        rfl
  | cons hunk hunks ih =>
      rw [applyFrom?_cons_eq_some_iff]
      constructor
      · rintro ⟨between, oldRest, newRest, rfl, rfl, holdStart, hnewStart, holdCount, hnewCount,
          hrest⟩
        rw [holdStart, hnewStart, ih] at hrest
        exact .next holdStart hnewStart holdCount hnewCount hrest
      · intro h
        cases h with
        | next holdStart hnewStart holdCount hnewCount hrest =>
            rw [← holdStart, ← hnewStart] at hrest
            exact ⟨_, _, _, rfl, rfl, holdStart, hnewStart, holdCount, hnewCount, ih.mpr hrest⟩

theorem patched?_of_patches {hunks : List Hunk} {old new : Text}
    (h : Patches 0 0 (lines old) (lines new) hunks) : patched? hunks old = some new := by
  rw [patched?, applyFrom?_eq_some_iff.mpr h, Option.map_some, flatten_lines]

@[simp]
theorem shownOn_reversed (side : Side) (shown : List HunkLine) :
    shownOn side (shown.map HunkLine.reversed) =
      match side with | .old => shownOn .new shown | .new => shownOn .old shown := by
  induction shown with
  | nil => cases side <;> rfl
  | cons line shown ih =>
      simp only [shownOn, List.map_cons, List.flatMap_cons] at ih ⊢
      rw [ih]
      cases side <;> cases line <;> rfl

/-- The reversed hunks exchange the lines the other way. -/
theorem Patches.reversed {x y : Nat} {old new : List Line} {hunks : List Hunk}
    (h : Patches x y old new hunks) : Patches y x new old (hunks.map Hunk.reversed) := by
  induction h with
  | none => exact .none
  | @next x y between old new hunk hunks holdStart hnewStart holdCount hnewCount hrest ih =>
      have hnext : Patches y x (between ++ shownOn .old hunk.reversed.lines ++ new)
          (between ++ shownOn .new hunk.reversed.lines ++ old)
          (hunk.reversed :: hunks.map Hunk.reversed) :=
        .next hnewStart holdStart (by simpa [Hunk.reversed] using hnewCount)
          (by simpa [Hunk.reversed] using holdCount) ih
      simpa [Hunk.reversed] using hnext

end StagedMocks.Diff
