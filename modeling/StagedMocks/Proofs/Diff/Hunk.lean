import StagedMocks.Diff.Hunk
import StagedMocks.Proofs.Diff.Script

/-!
The hunks of a script lead from the old lines to the new ones. The changes of a script exchange
lines at their places, and between two of them at least one line is kept. A change that does not
reach the hunk before it stands so far behind it that its own context fits between them.
-/
namespace StagedMocks.Diff

/-- Changes that exchange the old lines for the new ones, where `x` and `y` lines stand before
these. At least `least` equal lines come before the first change, and at least one between two. -/
inductive Exchanges : Nat → Nat → Nat → List Line → List Line → List Change → Prop where
  | none {least x y : Nat} {rest : List Line} : Exchanges least x y rest rest []
  | next {least x y : Nat} {gap deleted inserted old new : List Line} {changes : List Change} :
      least ≤ gap.length →
      Exchanges 1 (x + gap.length + deleted.length) (y + gap.length + inserted.length) old new
        changes →
      Exchanges least x y (gap ++ deleted ++ old) (gap ++ inserted ++ new)
        (⟨x + gap.length, x + gap.length + deleted.length, y + gap.length,
          y + gap.length + inserted.length⟩ :: changes)

theorem exchanges_nil {least x y : Nat} {old new : List Line}
    (h : Exchanges least x y old new []) : old = new := by
  cases h
  rfl

theorem exchanges_cons {least x y : Nat} {old new : List Line} {change : Change}
    {changes : List Change} (h : Exchanges least x y old new (change :: changes)) :
    ∃ gap deleted inserted oldRest newRest, old = gap ++ deleted ++ oldRest ∧
      new = gap ++ inserted ++ newRest ∧ least ≤ gap.length ∧
      change = ⟨x + gap.length, x + gap.length + deleted.length, y + gap.length,
        y + gap.length + inserted.length⟩ ∧
      Exchanges 1 (x + gap.length + deleted.length) (y + gap.length + inserted.length) oldRest
        newRest changes := by
  cases h with
  | next hgap hrest => exact ⟨_, _, _, _, _, rfl, rfl, hgap, rfl, hrest⟩

/-- The changes of a script exchange its old lines for its new ones. -/
theorem exchanges_changesFrom {script : Script} (htight : script.IsTight) (x y : Nat) :
    (∀ (least : Nat) (gap : List Line), least ≤ gap.length →
      Exchanges least x y (gap ++ script.linesOn .old) (gap ++ script.linesOn .new)
        (changesFrom (x + gap.length) (y + gap.length) none script)) ∧
      ∀ (least : Nat) (gap deleted inserted : List Line), least ≤ gap.length →
        Exchanges least x y (gap ++ deleted ++ script.linesOn .old)
          (gap ++ inserted ++ script.linesOn .new)
          (changesFrom (x + gap.length + deleted.length) (y + gap.length + inserted.length)
            (some ⟨x + gap.length, x + gap.length + deleted.length, y + gap.length,
              y + gap.length + inserted.length⟩) script) := by
  induction script generalizing x y with
  | nil => 
      constructor
      · intro least gap hgap
        exact .none
      · intro least gap deleted inserted hgap
        exact .next hgap .none
  | cons run script ih =>
      obtain ⟨hrun, hscript⟩ := Script.isTight_cons.mp htight
      cases run with
      | kept lines =>
          have hlines : 1 ≤ lines.length := List.length_pos_iff.mpr fun h => hrun (h ▸ rfl)
          constructor
          · intro least gap hgap
            have hnext := (ih hscript x y).1 least (gap ++ lines)
              (by rw [List.length_append]; omega)
            rw [List.length_append, ← Nat.add_assoc, ← Nat.add_assoc] at hnext
            simpa [changesFrom, Run.linesOn] using hnext
          · intro least gap deleted inserted hgap
            have hnext := (ih hscript (x + gap.length + deleted.length)
              (y + gap.length + inserted.length)).1 1 lines hlines
            exact .next hgap hnext
      | changed side lines =>
          constructor
          · intro least gap hgap
            cases side with
            | old =>
                have hnext := (ih hscript x y).2 least gap lines [] hgap
                simpa [changesFrom, Run.linesOn] using hnext
            | new =>
                have hnext := (ih hscript x y).2 least gap [] lines hgap
                simpa [changesFrom, Run.linesOn] using hnext
          · intro least gap deleted inserted hgap
            cases side with
            | old =>
                have hnext := (ih hscript x y).2 least gap (deleted ++ lines) inserted hgap
                simpa [changesFrom, Run.linesOn, Nat.add_assoc] using hnext
            | new =>
                have hnext := (ih hscript x y).2 least gap deleted (inserted ++ lines) hgap
                simpa [changesFrom, Run.linesOn, Nat.add_assoc] using hnext

theorem exchanges_changes {script : Script} {old new : List Line} (h : script.Joins old new) :
    Exchanges 0 0 0 old new (changes script) := by
  have hchanges := (exchanges_changesFrom h.tight 0 0).1 0 [] (Nat.le_refl 0)
  rw [h.old_eq, h.new_eq] at hchanges
  exact hchanges

namespace HunkLine

/-- The lines of a text that a line of a hunk shows. -/
def linesOn (side : Side) : HunkLine → List Line
  | .context line => [line]
  | .deleted line => if side = .old then [line] else []
  | .inserted line => if side = .new then [line] else []

end HunkLine

/-- The lines of a text that the lines of a hunk show. -/
def shownOn (side : Side) (shown : List HunkLine) : List Line :=
  shown.flatMap (HunkLine.linesOn side)

section Shown

variable (side : Side)

@[simp]
theorem shownOn_append (shown later : List HunkLine) :
    shownOn side (shown ++ later) = shownOn side shown ++ shownOn side later :=
  List.flatMap_append

@[simp]
theorem shownOn_context (lines : List Line) : shownOn side (lines.map .context) = lines := by
  induction lines with
  | nil => rfl
  | cons line lines ih => exact congrArg (line :: ·) ih

@[simp]
theorem shownOn_deleted (lines : List Line) :
    shownOn side (lines.map .deleted) = if side = .old then lines else [] := by
  induction lines with
  | nil => cases side <;> rfl
  | cons line lines ih =>
      cases side with
      | old => exact congrArg (line :: ·) ih
      | new => exact ih

@[simp]
theorem shownOn_inserted (lines : List Line) :
    shownOn side (lines.map .inserted) = if side = .new then lines else [] := by
  induction lines with
  | nil => cases side <;> rfl
  | cons line lines ih =>
      cases side with
      | old => exact ih
      | new => exact congrArg (line :: ·) ih

end Shown

/-- Hunks that exchange the old lines for the new ones, where `x` and `y` lines stand before these.
Between the hunks the lines are equal. -/
inductive Patches : Nat → Nat → List Line → List Line → List Hunk → Prop where
  | none {x y : Nat} {rest : List Line} : Patches x y rest rest []
  | next {x y : Nat} {between old new : List Line} {hunk : Hunk} {hunks : List Hunk} :
      hunk.oldStart = x + between.length → hunk.newStart = y + between.length →
      hunk.oldCount = (shownOn .old hunk.lines).length →
      hunk.newCount = (shownOn .new hunk.lines).length →
      Patches (x + between.length + hunk.oldCount) (y + between.length + hunk.newCount) old new
        hunks →
      Patches x y (between ++ shownOn .old hunk.lines ++ old)
        (between ++ shownOn .new hunk.lines ++ new) (hunk :: hunks)

theorem Patches.behind {x y : Nat} {old new : List Line} {hunks : List Hunk} (lines : List Line)
    (h : Patches (x + lines.length) (y + lines.length) old new hunks) :
    Patches x y (lines ++ old) (lines ++ new) hunks := by
  cases h with
  | none => exact .none
  | @next _ _ between old new hunk hunks hold hnew holdCount hnewCount hrest =>
      have hlength : (lines ++ between).length = lines.length + between.length :=
        List.length_append
      have hnext : Patches x y (lines ++ between ++ shownOn .old hunk.lines ++ old)
          (lines ++ between ++ shownOn .new hunk.lines ++ new) (hunk :: hunks) :=
        .next (by omega) (by omega) holdCount hnewCount (by
          rw [hlength, ← Nat.add_assoc, ← Nat.add_assoc]
          exact hrest)
      simpa using hnext

theorem between_eq {lines before middle behind : List Line}
    (h : lines = before ++ (middle ++ behind)) {start finish : Nat} (hstart : start = before.length)
    (hfinish : finish = before.length + middle.length) :
    Hunk.between lines.toArray start finish = middle := by
  subst hstart hfinish h
  rw [Hunk.between, Array.toList_extract, List.extract_eq_take_drop, List.drop_left,
    Nat.add_sub_cancel_left, List.take_left]

/-- What a hunk shows of kept lines and the change behind them. -/
def changeLines (gap deleted inserted : List Line) : List HunkLine :=
  gap.map .context ++ deleted.map .deleted ++ inserted.map .inserted

@[simp]
theorem shownOn_changeLines (side : Side) (gap deleted inserted : List Line) :
    shownOn side (changeLines gap deleted inserted) =
      gap ++ (match side with | .old => deleted | .new => inserted) := by
  cases side <;> simp [changeLines]

section Bodies

variable {old new oldBefore newBefore gap deleted inserted oldRest newRest : List Line}

theorem body_change (hold : old = oldBefore ++ (gap ++ deleted ++ oldRest))
    (hnew : new = newBefore ++ (gap ++ inserted ++ newRest)) {change : Change}
    (hchange : change = ⟨oldBefore.length + gap.length,
      oldBefore.length + gap.length + deleted.length, newBefore.length + gap.length,
      newBefore.length + gap.length + inserted.length⟩) {start : Nat}
    (hstart : start = newBefore.length) (finish : Nat) (more : List Change) :
    Hunk.body old.toArray new.toArray finish start (change :: more) =
      changeLines gap deleted inserted ++
        Hunk.body old.toArray new.toArray finish change.newFinish more := by
  subst hchange hstart
  have hkept : Hunk.between new.toArray newBefore.length (newBefore.length + gap.length) = gap :=
    between_eq (hnew.trans (by rw [List.append_assoc])) rfl rfl
  have hgone : Hunk.between old.toArray (oldBefore.length + gap.length)
      (oldBefore.length + gap.length + deleted.length) = deleted :=
    between_eq (hold.trans (by simp : _ = (oldBefore ++ gap) ++ (deleted ++ oldRest)))
      (by rw [List.length_append]) (by rw [List.length_append])
  have hcome : Hunk.between new.toArray (newBefore.length + gap.length)
      (newBefore.length + gap.length + inserted.length) = inserted :=
    between_eq (hnew.trans (by simp : _ = (newBefore ++ gap) ++ (inserted ++ newRest)))
      (by rw [List.length_append]) (by rw [List.length_append])
  rw [Hunk.body, hkept, hgone, hcome, changeLines]

end Bodies

/-- The number of lines that are shown behind a change. -/
def contextBehind (oldRest newRest : List Line) : Nat :=
  min contextLength (min oldRest.length newRest.length)

/-- A hunk that has begun behind some lines, and shows lines up to a change behind which the rests
of the texts stand. -/
structure Begun (old new oldBefore newBefore : List Line) (shown : List HunkLine)
    (oldRest newRest : List Line) (range : HunkRange) : Prop where
  old_eq : old = oldBefore ++ (shownOn .old shown ++ oldRest)
  new_eq : new = newBefore ++ (shownOn .new shown ++ newRest)
  oldStart : range.oldStart = oldBefore.length
  newStart : range.newStart = newBefore.length
  oldFinish : range.oldFinish =
    oldBefore.length + (shownOn .old shown).length + contextBehind oldRest newRest
  newFinish : range.newFinish =
    newBefore.length + (shownOn .new shown).length + contextBehind oldRest newRest
  body_eq : ∀ finish more,
    Hunk.body old.toArray new.toArray finish range.newStart (range.changes ++ more) =
      shown ++ Hunk.body old.toArray new.toArray finish
        (newBefore.length + (shownOn .new shown).length) more

section Begun

variable {old new oldBefore newBefore gap deleted inserted oldRest newRest : List Line}
  {shown : List HunkLine} {current : HunkRange} {change : Change}

theorem finish_ofChange (hold : old = oldBefore ++ (gap ++ deleted ++ oldRest))
    (hnew : new = newBefore ++ (gap ++ inserted ++ newRest))
    (hchange : change = ⟨oldBefore.length + gap.length,
      oldBefore.length + gap.length + deleted.length, newBefore.length + gap.length,
      newBefore.length + gap.length + inserted.length⟩) :
    (HunkRange.ofChange old.length new.length change).oldFinish =
        oldBefore.length + gap.length + deleted.length + contextBehind oldRest newRest ∧
      (HunkRange.ofChange old.length new.length change).newFinish =
        newBefore.length + gap.length + inserted.length + contextBehind oldRest newRest := by
  have holdLength : old.length = oldBefore.length + gap.length + deleted.length + oldRest.length := by
    simp only [hold, List.length_append, Nat.add_assoc]
  have hnewLength : new.length = newBefore.length + gap.length + inserted.length + newRest.length := by
    simp only [hnew, List.length_append, Nat.add_assoc]
  simp only [HunkRange.ofChange, contextBehind, holdLength, hnewLength, hchange,
    Nat.add_sub_cancel_left, and_self]

/-- A hunk that is joined with a later change goes on behind this change. -/
theorem Begun.join
    (h : Begun old new oldBefore newBefore shown (gap ++ deleted ++ oldRest)
      (gap ++ inserted ++ newRest) current)
    (hchange : change = ⟨oldBefore.length + (shownOn .old shown).length + gap.length,
      oldBefore.length + (shownOn .old shown).length + gap.length + deleted.length,
      newBefore.length + (shownOn .new shown).length + gap.length,
      newBefore.length + (shownOn .new shown).length + gap.length + inserted.length⟩) :
    Begun old new oldBefore newBefore (shown ++ changeLines gap deleted inserted) oldRest newRest
      (current.join (HunkRange.ofChange old.length new.length change)) := by
  have hold : old = oldBefore ++ shownOn .old shown ++ (gap ++ deleted ++ oldRest) :=
    h.old_eq.trans (List.append_assoc _ _ _).symm
  have hnew : new = newBefore ++ shownOn .new shown ++ (gap ++ inserted ++ newRest) :=
    h.new_eq.trans (List.append_assoc _ _ _).symm
  have hplaced : change = ⟨(oldBefore ++ shownOn .old shown).length + gap.length,
      (oldBefore ++ shownOn .old shown).length + gap.length + deleted.length,
      (newBefore ++ shownOn .new shown).length + gap.length,
      (newBefore ++ shownOn .new shown).length + gap.length + inserted.length⟩ := by
    rw [hchange, List.length_append, List.length_append]
  obtain ⟨holdFinish, hnewFinish⟩ := finish_ofChange hold hnew hplaced
  refine ⟨?_, ?_, h.oldStart, h.newStart, holdFinish.trans ?_, hnewFinish.trans ?_, ?_⟩
  · rw [hold]
    simp
  · rw [hnew]
    simp
  · simp only [shownOn_append, shownOn_changeLines, List.length_append, Nat.add_assoc]
  · simp only [shownOn_append, shownOn_changeLines, List.length_append, Nat.add_assoc]
  · intro finish more
    have hbody := body_change hold hnew hplaced List.length_append.symm finish more
    have hbefore := h.body_eq finish (change :: more)
    rw [hbody] at hbefore
    simp only [HunkRange.join, HunkRange.ofChange, List.append_assoc, List.singleton_append,
      shownOn_append, shownOn_changeLines, List.length_append]
    rw [hbefore, hchange]
    simp only [Nat.add_assoc]

/-- A hunk begins where the context of its first change does. -/
theorem begun_of_start (hold : old = oldBefore ++ (gap ++ deleted ++ oldRest))
    (hnew : new = newBefore ++ (gap ++ inserted ++ newRest))
    (hchange : change = ⟨oldBefore.length + gap.length,
      oldBefore.length + gap.length + deleted.length, newBefore.length + gap.length,
      newBefore.length + gap.length + inserted.length⟩)
    (holdStart : (HunkRange.ofChange old.length new.length change).oldStart = oldBefore.length)
    (hnewStart : (HunkRange.ofChange old.length new.length change).newStart = newBefore.length) :
    Begun old new oldBefore newBefore (changeLines gap deleted inserted) oldRest newRest
      (HunkRange.ofChange old.length new.length change) := by
  obtain ⟨holdFinish, hnewFinish⟩ := finish_ofChange hold hnew hchange
  refine ⟨?_, ?_, holdStart, hnewStart, holdFinish.trans ?_, hnewFinish.trans ?_, ?_⟩
  · rw [shownOn_changeLines]
    exact hold
  · rw [shownOn_changeLines]
    exact hnew
  · simp only [shownOn_changeLines, List.length_append, Nat.add_assoc]
  · simp only [shownOn_changeLines, List.length_append, Nat.add_assoc]
  · intro finish more
    have hend : newBefore.length + (shownOn .new (changeLines gap deleted inserted)).length =
        change.newFinish := by
      simp only [hchange, shownOn_changeLines, List.length_append, Nat.add_assoc]
    rw [hend]
    exact body_change hold hnew hchange hnewStart finish more

/-- A change that has room for its context, or nothing before it, begins a hunk. -/
theorem begun_ofChange (hold : old = oldBefore ++ (gap ++ deleted ++ oldRest))
    (hnew : new = newBefore ++ (gap ++ inserted ++ newRest))
    (hroom : contextLength ≤ gap.length ∨ (oldBefore = [] ∧ newBefore = []))
    (hchange : change = ⟨oldBefore.length + gap.length,
      oldBefore.length + gap.length + deleted.length, newBefore.length + gap.length,
      newBefore.length + gap.length + inserted.length⟩) :
    Begun old new (oldBefore ++ gap.take (gap.length - contextLength))
      (newBefore ++ gap.take (gap.length - contextLength))
      (changeLines (gap.drop (gap.length - contextLength)) deleted inserted) oldRest newRest
      (HunkRange.ofChange old.length new.length change) := by
  -- Without room for the context the hunk begins with the texts.
  have hstarts : oldBefore.length + gap.length - contextLength =
        oldBefore.length + (gap.length - contextLength) ∧
      newBefore.length + gap.length - contextLength =
        newBefore.length + (gap.length - contextLength) := by
    obtain hroom | ⟨rfl, rfl⟩ := hroom
    · omega
    · simp
  have hsplit := (List.take_append_drop (gap.length - contextLength) gap).symm
  have hskipped : (gap.take (gap.length - contextLength)).length = gap.length - contextLength := by
    rw [List.length_take]
    omega
  generalize gap.take (gap.length - contextLength) = skipped at hsplit hskipped ⊢
  generalize gap.drop (gap.length - contextLength) = context at hsplit ⊢
  rw [← hskipped] at hstarts
  subst hsplit
  refine begun_of_start ?_ ?_ ?_ ?_ ?_
  · simp only [hold, List.append_assoc]
  · simp only [hnew, List.append_assoc]
  · simp only [hchange, List.length_append, Nat.add_assoc]
  · rw [HunkRange.ofChange, hchange]
    exact hstarts.1.trans List.length_append.symm
  · rw [HunkRange.ofChange, hchange]
    exact hstarts.2.trans List.length_append.symm

/-- A hunk ends in kept lines behind its last change. -/
theorem Begun.patches {shared : List Line}
    (h : Begun old new oldBefore newBefore shown (shared ++ oldRest) (shared ++ newRest) current)
    (hshared : shared.length = contextBehind (shared ++ oldRest) (shared ++ newRest))
    {hunks : List Hunk}
    (hrest : Patches (oldBefore.length + (shownOn .old shown).length + shared.length)
      (newBefore.length + (shownOn .new shown).length + shared.length) oldRest newRest hunks) :
    Patches oldBefore.length newBefore.length (shownOn .old shown ++ (shared ++ oldRest))
      (shownOn .new shown ++ (shared ++ newRest))
      (Hunk.ofRange old.toArray new.toArray current :: hunks) := by
  have holdFinish := h.oldFinish
  have hnewFinish := h.newFinish
  rw [← hshared] at holdFinish hnewFinish
  have hkept : Hunk.between new.toArray
      (newBefore.length + (shownOn .new shown).length) current.newFinish = shared :=
    between_eq (h.new_eq.trans (by rw [← List.append_assoc]))
      List.length_append.symm (by rw [hnewFinish, List.length_append])
  have hlines : (Hunk.ofRange old.toArray new.toArray current).lines =
      shown ++ shared.map .context := by
    have hbody := h.body_eq current.newFinish []
    rw [List.append_nil, Hunk.body, hkept] at hbody
    exact hbody
  have hnext : Patches oldBefore.length newBefore.length
      ([] ++ shownOn .old (Hunk.ofRange old.toArray new.toArray current).lines ++ oldRest)
      ([] ++ shownOn .new (Hunk.ofRange old.toArray new.toArray current).lines ++ newRest)
      (Hunk.ofRange old.toArray new.toArray current :: hunks) := by
    have holdCount : (Hunk.ofRange old.toArray new.toArray current).oldCount =
        (shownOn .old shown).length + shared.length := by
      have hstart := h.oldStart
      simp only [Hunk.ofRange]
      omega
    have hnewCount : (Hunk.ofRange old.toArray new.toArray current).newCount =
        (shownOn .new shown).length + shared.length := by
      have hstart := h.newStart
      simp only [Hunk.ofRange]
      omega
    refine .next h.oldStart h.newStart ?_ ?_ ?_
    · rw [hlines, holdCount, shownOn_append, shownOn_context, List.length_append]
    · rw [hlines, hnewCount, shownOn_append, shownOn_context, List.length_append]
    · rw [holdCount, hnewCount, List.length_nil, Nat.add_zero, Nat.add_zero, ← Nat.add_assoc,
        ← Nat.add_assoc]
      exact hrest
  rw [hlines] at hnext
  simpa using hnext

/-- A change that a hunk does not reach leaves room for the context of both. -/
theorem Begun.apart
    (h : Begun old new oldBefore newBefore shown (gap ++ deleted ++ oldRest)
      (gap ++ inserted ++ newRest) current) (hgap : 1 ≤ gap.length)
    (hchange : change.oldStart = oldBefore.length + (shownOn .old shown).length + gap.length)
    (hreaches : ¬ current.reaches old.length change = true) :
    ∃ shared between, gap = shared ++ between ∧ shared.length = contextLength ∧
      contextLength ≤ between.length := by
  have hlength := congrArg List.length h.old_eq
  have hfinish := h.oldFinish
  simp only [contextBehind, List.length_append] at hlength hfinish
  rw [HunkRange.reaches, decide_eq_true_eq, Nat.not_lt, hchange] at hreaches
  have hcontext : contextLength = 3 := rfl
  have hroom : contextLength + contextLength ≤ gap.length := by omega
  refine ⟨gap.take contextLength, gap.drop contextLength, (List.take_append_drop _ _).symm, ?_, ?_⟩
  · rw [List.length_take]
    omega
  · rw [List.length_drop]
    omega

theorem length_context (before gap behind : List Line) :
    (before ++ gap.take (gap.length - contextLength)).length +
        (gap.drop (gap.length - contextLength) ++ behind).length =
      before.length + gap.length + behind.length := by
  simp only [List.length_append, List.length_take, List.length_drop]
  omega

/-- The kept lines before the context of a change come before its hunk. -/
theorem Patches.skipped {hunks : List Hunk}
    (h : Patches (oldBefore ++ gap.take (gap.length - contextLength)).length
      (newBefore ++ gap.take (gap.length - contextLength)).length
      (shownOn .old (changeLines (gap.drop (gap.length - contextLength)) deleted inserted) ++ oldRest)
      (shownOn .new (changeLines (gap.drop (gap.length - contextLength)) deleted inserted) ++ newRest)
      hunks) :
    Patches oldBefore.length newBefore.length (gap ++ deleted ++ oldRest)
      (gap ++ inserted ++ newRest) hunks := by
  rw [List.length_append, List.length_append, shownOn_changeLines, shownOn_changeLines] at h
  have hbehind := h.behind (gap.take (gap.length - contextLength))
  simp only [← List.append_assoc, List.take_append_drop] at hbehind
  exact hbehind

/-- The hunks of changes, the first of which has begun, exchange what is shown of it and what
stands behind. -/
theorem patches_group {changes : List Change}
    (h : Begun old new oldBefore newBefore shown oldRest newRest current)
    (hchanges : Exchanges 1 (oldBefore.length + (shownOn .old shown).length)
      (newBefore.length + (shownOn .new shown).length) oldRest newRest changes) :
    Patches oldBefore.length newBefore.length (shownOn .old shown ++ oldRest)
      (shownOn .new shown ++ newRest)
      ((HunkRange.group old.length new.length current changes).map
        (Hunk.ofRange old.toArray new.toArray)) := by
  induction changes generalizing oldBefore newBefore shown oldRest newRest current with
  | nil =>
      obtain rfl := exchanges_nil hchanges
      have hsplit := (List.take_append_drop contextLength oldRest).symm
      have hlength : (oldRest.take contextLength).length = contextBehind oldRest oldRest := by
        rw [contextBehind, List.length_take, Nat.min_self]
      rw [HunkRange.group, List.map_cons, List.map_nil]
      generalize oldRest.take contextLength = shared at hsplit hlength
      generalize oldRest.drop contextLength = tail at hsplit
      subst hsplit
      exact h.patches hlength .none
  | cons change changes ih =>
      obtain ⟨gap, deleted, inserted, oldTail, newTail, rfl, rfl, hgap, hchange, hrest⟩ :=
        exchanges_cons hchanges
      rw [HunkRange.group]
      split
      · have hjoined := ih (h.join hchange) (by
          simp only [shownOn_append, shownOn_changeLines, List.length_append, ← Nat.add_assoc]
          exact hrest)
        simp only [shownOn_append, shownOn_changeLines, List.append_assoc] at hjoined ⊢
        exact hjoined
      · rename_i hreaches
        obtain ⟨shared, between, rfl, hlength, hbetween⟩ := h.apart hgap (by rw [hchange]) hreaches
        have hplaced : change = ⟨(oldBefore ++ shownOn .old shown ++ shared).length + between.length,
            (oldBefore ++ shownOn .old shown ++ shared).length + between.length + deleted.length,
            (newBefore ++ shownOn .new shown ++ shared).length + between.length,
            (newBefore ++ shownOn .new shown ++ shared).length + between.length +
              inserted.length⟩ := by
          simp only [hchange, List.length_append, Nat.add_assoc]
        have hold : old = oldBefore ++ shownOn .old shown ++ shared ++
            (between ++ deleted ++ oldTail) := by
          simp only [h.old_eq, List.append_assoc]
        have hnew : new = newBefore ++ shownOn .new shown ++ shared ++
            (between ++ inserted ++ newTail) := by
          simp only [h.new_eq, List.append_assoc]
        have hnext := (ih (begun_ofChange hold hnew (.inl hbetween) hplaced) (by
          simp only [shownOn_changeLines, length_context]
          simp only [List.length_append, ← Nat.add_assoc] at hrest ⊢
          exact hrest)).skipped
        have hcontext : shared.length = contextBehind
            (shared ++ (between ++ deleted ++ oldTail)) (shared ++ (between ++ inserted ++ newTail)) := by
          simp only [contextBehind, List.length_append]
          omega
        simp only [List.length_append] at hnext
        simp only [List.append_assoc] at h hcontext hnext ⊢
        exact h.patches hcontext hnext

end Begun

section Hunks

variable {old new : List Line} {script : Script}

/-- The hunks of a script exchange its old lines for its new ones. -/
theorem patches_hunks (h : script.Joins old new) : Patches 0 0 old new (hunks old new script) := by
  have hchanges := exchanges_changes h
  rw [hunks]
  cases hcase : changes script with
  | nil =>
      rw [hcase] at hchanges
      obtain rfl := exchanges_nil hchanges
      exact .none
  | cons change changes =>
      rw [hcase] at hchanges
      obtain ⟨gap, deleted, inserted, oldTail, newTail, hold, hnew, -, hchange, hrest⟩ :=
        exchanges_cons hchanges
      have hbegun := begun_ofChange (hold : old = [] ++ (gap ++ deleted ++ oldTail))
        (hnew : new = [] ++ (gap ++ inserted ++ newTail)) (.inr ⟨rfl, rfl⟩) hchange
      have hgroup := (patches_group hbegun (by
        simp only [shownOn_changeLines, length_context]
        exact hrest)).skipped
      rw [← hold, ← hnew] at hgroup
      exact hgroup

theorem HunkRange.group_ne_nil (oldCount newCount : Nat) (current : HunkRange)
    (changes : List Change) : group oldCount newCount current changes ≠ [] := by
  induction changes generalizing current with
  | nil => simp [group]
  | cons change changes ih =>
      rw [group]
      split
      · exact ih _
      · exact List.cons_ne_nil _ _

theorem hunks_ne_nil (h : script.Joins old new) (hdiffer : old ≠ new) :
    hunks old new script ≠ [] := by
  have hchanges := exchanges_changes h
  rw [hunks, Ne, List.map_eq_nil_iff]
  cases hcase : changes script with
  | nil => 
      rw [hcase] at hchanges
      exact absurd (exchanges_nil hchanges) hdiffer
  | cons change changes => exact HunkRange.group_ne_nil _ _ _ _

end Hunks

end StagedMocks.Diff
