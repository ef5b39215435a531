import StagedMocks.Diff.Compaction
import StagedMocks.Diff.Shortest

/-!
Every script belongs to the two texts that it is made for. However the cuts of the search are
chosen, the parts put together read as the old lines on one side and as the new lines on the other,
and the moves that merge changed runs keep both sides. No kept run is empty.
-/
namespace StagedMocks.Diff

namespace Script

section Sides

variable (side : Side)

@[simp]
theorem linesOn_nil : linesOn side [] = [] :=
  rfl

@[simp]
theorem linesOn_cons (run : Run) (script : Script) :
    linesOn side (run :: script) = run.linesOn side ++ linesOn side script :=
  rfl

@[simp]
theorem linesOn_append (script later : Script) :
    linesOn side (script ++ later) = linesOn side script ++ linesOn side later :=
  List.flatMap_append

@[simp]
theorem linesOn_keeping (lines : List Line) : linesOn side (keeping lines) = lines := by
  rw [keeping]
  cases lines with
  | nil => rfl
  | cons line lines => exact List.append_nil _

@[simp]
theorem linesOn_changing (changed : Side) (lines : List Line) :
    linesOn side (changing changed lines) = if changed = side then lines else [] := by
  rw [changing]
  cases lines with
  | nil =>
      cases changed <;> cases side <;> rfl
  | cons line lines => exact List.append_nil _

@[simp]
theorem linesOn_prepend (lines : List Line) (script : Script) :
    linesOn side (script.prepend lines) = lines ++ linesOn side script := by
  unfold prepend
  split
  · exact List.append_assoc _ _ _
  · rfl

@[simp]
theorem linesOn_reverse_appendLast (lines : List Line) (before : Script) :
    linesOn side (before.appendLast lines).reverse = linesOn side before.reverse ++ lines := by
  unfold appendLast
  split
  · simp [Run.linesOn]
  · simp [Run.linesOn]

@[simp]
theorem reverse_keeping (lines : List Line) : (keeping lines).reverse = keeping lines := by
  rw [keeping]
  split <;> rfl

end Sides

/-- No kept run is empty. -/
def IsTight (script : Script) : Prop :=
  .kept [] ∉ script

theorem isTight_append {script later : Script} :
    IsTight (script ++ later) ↔ IsTight script ∧ IsTight later := by
  rw [IsTight, List.mem_append, not_or]
  rfl

theorem isTight_cons {run : Run} {script : Script} :
    IsTight (run :: script) ↔ run ≠ .kept [] ∧ IsTight script := by
  rw [IsTight, List.mem_cons, not_or]
  exact and_congr_left' ne_comm

theorem isTight_reverse {script : Script} : IsTight script.reverse ↔ IsTight script := by
  rw [IsTight, List.mem_reverse]
  rfl

theorem isTight_keeping (lines : List Line) : IsTight (keeping lines) := by
  rw [keeping]
  cases lines with
  | nil => nofun
  | cons line lines => simp [IsTight]

theorem isTight_changing (side : Side) (lines : List Line) : IsTight (changing side lines) := by
  rw [changing]
  split <;> simp [IsTight]

theorem isTight_prepend {lines : List Line} (hne : lines ≠ []) {script : Script}
    (h : IsTight script) : IsTight (script.prepend lines) := by
  unfold prepend
  split
  · exact isTight_cons.mpr ⟨by simp [hne], (isTight_cons.mp h).2⟩
  · exact isTight_cons.mpr ⟨by simp [hne], h⟩

theorem isTight_appendLast {lines : List Line} (hne : lines ≠ []) {before : Script}
    (h : IsTight before) : IsTight (before.appendLast lines) := by
  unfold appendLast
  split
  · exact isTight_cons.mpr ⟨by simp [hne], (isTight_cons.mp h).2⟩
  · exact isTight_cons.mpr ⟨by simp [hne], h⟩

/-- A script from some lines to others. -/
structure Joins (script : Script) (old new : List Line) : Prop where
  old_eq : script.linesOn .old = old
  new_eq : script.linesOn .new = new
  tight : script.IsTight

theorem Joins.append {script later : Script} {old new old' new' : List Line}
    (h : Joins script old new) (h' : Joins later old' new') :
    Joins (script ++ later) (old ++ old') (new ++ new') where
  old_eq := by rw [linesOn_append, h.old_eq, h'.old_eq]
  new_eq := by rw [linesOn_append, h.new_eq, h'.new_eq]
  tight := isTight_append.mpr ⟨h.tight, h'.tight⟩

theorem joins_keeping (lines : List Line) : Joins (keeping lines) lines lines :=
  ⟨linesOn_keeping _ _, linesOn_keeping _ _, isTight_keeping lines⟩

/-- Dropping all old lines and taking all new ones is a script. -/
theorem joins_changing (old new : List Line) :
    Joins (changing .old old ++ changing .new new) old new where
  old_eq := by simp
  new_eq := by simp
  tight := isTight_append.mpr ⟨isTight_changing _ _, isTight_changing _ _⟩

end Script

section Common

theorem take_commonLength (as bs : List Line) :
    bs.take (commonLength as bs) = as.take (commonLength as bs) := by
  induction as generalizing bs with
  | nil => simp [commonLength]
  | cons a as ih =>
      cases bs with
      | nil => simp [commonLength]
      | cons b bs =>
          rw [commonLength]
          split
          · rename_i hsame
            rw [List.take_succ_cons, List.take_succ_cons, hsame, ih]
          · rfl

theorem commonLength_le (as bs : List Line) :
    commonLength as bs ≤ as.length ∧ commonLength as bs ≤ bs.length := by
  induction as generalizing bs with
  | nil => simp [commonLength]
  | cons a as ih =>
      cases bs with
      | nil => simp [commonLength]
      | cons b bs =>
          have hle := ih bs
          rw [commonLength, List.length_cons, List.length_cons]
          split
          · omega
          · omega

theorem drop_commonEndLength (as bs : List Line) :
    bs.drop (bs.length - commonEndLength as bs) = as.drop (as.length - commonEndLength as bs) := by
  have htake := take_commonLength as.reverse bs.reverse
  rw [List.take_reverse, List.take_reverse, List.reverse_inj] at htake
  exact htake

theorem commonEndLength_le (as bs : List Line) :
    commonEndLength as bs ≤ as.length ∧ commonEndLength as bs ≤ bs.length := by
  have hle := commonLength_le as.reverse bs.reverse
  rwa [List.length_reverse, List.length_reverse] at hle

end Common

theorem trimmed_eq (old new : List Line) :
    old = (Trimmed.of old new).head ++ (Trimmed.of old new).old ++ (Trimmed.of old new).tail ∧
      new = (Trimmed.of old new).head ++ (Trimmed.of old new).new ++ (Trimmed.of old new).tail := by
  have htail := drop_commonEndLength (old.drop (commonLength old new))
    (new.drop (commonLength old new))
  simp only [Trimmed.of]
  constructor
  · rw [List.append_assoc, List.take_append_drop, List.take_append_drop]
  · rw [List.append_assoc, ← take_commonLength, ← htail, List.take_append_drop,
      List.take_append_drop]

/-- A script of what stands between common ends makes one of the whole. -/
theorem joins_around {old new : List Line} {inner : Script}
    (h : inner.Joins (Trimmed.of old new).old (Trimmed.of old new).new) :
    ((Trimmed.of old new).around inner).Joins old new := by
  obtain ⟨hold, hnew⟩ := trimmed_eq old new
  have hjoined := ((Script.joins_keeping (Trimmed.of old new).head).append h).append
    (Script.joins_keeping (Trimmed.of old new).tail)
  rw [← hold, ← hnew] at hjoined
  exact hjoined

theorem joins_scriptUpTo (depth : Nat) (old new : List Line) :
    (scriptUpTo depth old new).Joins old new := by
  induction depth generalizing old new with
  | zero => exact Script.joins_changing old new
  | succ depth ih =>
      rw [scriptUpTo]
      apply joins_around
      split
      · exact Script.joins_changing _ _
      · split
        · exact Script.joins_changing _ _
        · rename_i x y _
          have hjoined := (ih ((Trimmed.of old new).old.take x) ((Trimmed.of old new).new.take y)).append
            (ih ((Trimmed.of old new).old.drop x) ((Trimmed.of old new).new.drop y))
          rw [List.take_append_drop, List.take_append_drop] at hjoined
          exact hjoined

/-- A script that is put in the place of another: the same texts, and still no empty kept run. -/
structure Script.Replaces (script other : Script) : Prop where
  linesOn_eq : ∀ side, script.linesOn side = other.linesOn side
  tight : other.IsTight → script.IsTight

theorem Script.Replaces.refl (script : Script) : script.Replaces script :=
  ⟨fun _ => rfl, id⟩

theorem Script.Replaces.trans {script other last : Script} (h : script.Replaces other)
    (h' : other.Replaces last) : script.Replaces last :=
  ⟨fun side => (h.linesOn_eq side).trans (h'.linesOn_eq side), fun htight => h.tight (h'.tight htight)⟩

namespace Placed

/-- The script in which a run of a side is placed. -/
def script (side : Side) (placed : Placed) : Script :=
  placed.before.reverse ++ .changed side placed.lines :: placed.behind

theorem script_eq (side : Side) (before : Script) (lines : List Line) (behind : Script) :
    script side ⟨before, lines, behind⟩ = before.reverse ++ .changed side lines :: behind :=
  rfl

/-- A run that has moved up over lines with which it ends. -/
theorem raised_replaces (side : Side) (before : Script) (front back moved : List Line)
    (hmoved : moved ≠ []) (behind : Script) :
    (script side ⟨Script.keeping front ++ before, moved ++ back, behind.prepend moved⟩).Replaces
      (script side ⟨.kept (front ++ moved) :: before, back ++ moved, behind⟩) where
  linesOn_eq other := by
    cases side <;> cases other <;> simp [script_eq, Run.linesOn]
  tight h := by
    simp only [script_eq, List.reverse_cons, List.reverse_append, Script.reverse_keeping,
      Script.isTight_append, Script.isTight_cons] at h ⊢
    obtain ⟨⟨hbefore, _⟩, _, hbehind⟩ := h
    exact ⟨⟨hbefore, Script.isTight_keeping front⟩, nofun,
      Script.isTight_prepend hmoved hbehind⟩

/-- A run that has moved down over lines with which it begins. -/
theorem lowered_replaces (side : Side) (before : Script) (front back moved : List Line)
    (hmoved : moved ≠ []) (behind : Script) :
    (script side ⟨before.appendLast moved, front ++ moved, Script.keeping back ++ behind⟩).Replaces
      (script side ⟨before, moved ++ front, .kept (moved ++ back) :: behind⟩) where
  linesOn_eq other := by
    cases side <;> cases other <;> simp [script_eq, Run.linesOn]
  tight h := by
    simp only [script_eq, Script.isTight_append, Script.isTight_cons, Script.isTight_reverse] at h ⊢
    obtain ⟨hbefore, _, _, hbehind⟩ := h
    exact ⟨Script.isTight_appendLast hmoved hbefore, nofun, Script.isTight_keeping back, hbehind⟩

/-- Runs of the two sides can change places. -/
theorem swapped_replaces {s side : Side} (hne : s ≠ side) (before : Script)
    (earlier lines : List Line) (behind : Script) :
    Script.Replaces (before ++ .changed side lines :: .changed s earlier :: behind)
      (before ++ .changed s earlier :: .changed side lines :: behind) where
  linesOn_eq other := by
    cases s <;> cases side <;> cases other <;> simp_all [Run.linesOn]
  tight h := by
    simp only [Script.isTight_append, Script.isTight_cons] at h ⊢
    exact ⟨h.1, h.2.2.1, h.2.1, h.2.2.2⟩

/-- Neighbouring runs of a side are one run. -/
theorem merged_replaces (side : Side) (before : Script) (lines more : List Line)
    (behind : Script) :
    Script.Replaces (before ++ .changed side (lines ++ more) :: behind)
      (before ++ .changed side lines :: .changed side more :: behind) where
  linesOn_eq other := by
    cases side <;> cases other <;> simp [Run.linesOn]
  tight h := by
    simp only [Script.isTight_append, Script.isTight_cons] at h ⊢
    exact ⟨h.1, nofun, h.2.2.2⟩

/-- An empty kept run says nothing. -/
theorem dropped_replaces (before behind : Script) :
    Script.Replaces (before ++ behind) (before ++ .kept [] :: behind) where
  linesOn_eq other := by simp [Run.linesOn]
  tight h := by
    obtain ⟨hbefore, hbehind⟩ := Script.isTight_append.mp h
    exact Script.isTight_append.mpr ⟨hbefore, (Script.isTight_cons.mp hbehind).2⟩

theorem raise_replaces (side : Side) (limit : Nat) (placed : Placed) :
    ((placed.raise side limit).script side).Replaces (placed.script side) := by
  induction limit generalizing placed with
  | zero => exact .refl _
  | succ limit ih =>
      obtain ⟨before, lines, behind⟩ := placed
      match before with
      | [] => exact .refl _
      | .kept previous :: rest =>
          rw [raise]
          dsimp only
          split
          · split
            · rename_i hempty
              rw [List.isEmpty_iff.mp hempty]
              refine (ih _).trans ?_
              simp only [script_eq, List.reverse_cons, List.append_assoc, List.singleton_append]
              exact dropped_replaces _ _
            · exact .refl _
          · rename_i hshared
            obtain ⟨hlines, hprevious⟩ := commonEndLength_le lines previous
            have hend := drop_commonEndLength lines previous
            have hmoved : lines.drop (lines.length - commonEndLength lines previous) ≠ [] := by
              rw [Ne, List.drop_eq_nil_iff]
              omega
            have hstep := raised_replaces side rest
              (previous.take (previous.length - commonEndLength lines previous))
              (lines.take (lines.length - commonEndLength lines previous)) _ hmoved behind
            rw [List.take_append_drop, ← hend, List.take_append_drop, hend] at hstep
            exact (ih _).trans hstep
      | .changed s earlier :: rest =>
          rw [raise]
          dsimp only
          split
          · rename_i hsame
            subst hsame
            refine (ih _).trans ?_
            simp only [script_eq, List.reverse_cons, List.append_assoc, List.singleton_append]
            exact merged_replaces s _ _ _ _
          · rename_i hne
            refine (ih _).trans ?_
            simp only [script_eq, List.reverse_cons, List.append_assoc, List.singleton_append]
            exact swapped_replaces hne _ _ _ _

theorem lower_replaces (side : Side) (limit : Nat) (placed : Placed) :
    ((placed.lower side limit).script side).Replaces (placed.script side) := by
  induction limit generalizing placed with
  | zero => exact .refl _
  | succ limit ih =>
      obtain ⟨before, lines, behind⟩ := placed
      match behind with
      | [] => exact .refl _
      | .kept next :: rest =>
          rw [lower]
          dsimp only
          split
          · split
            · rename_i hempty
              rw [List.isEmpty_iff.mp hempty]
              refine (ih _).trans ?_
              have hdropped := dropped_replaces (before.reverse ++ [.changed side lines]) rest
              rw [List.append_assoc, List.append_assoc] at hdropped
              exact hdropped
            · exact .refl _
          · rename_i hshared
            obtain ⟨hlines, hnext⟩ := commonLength_le lines next
            have hstart := take_commonLength lines next
            have hmoved : lines.take (commonLength lines next) ≠ [] := by
              rw [Ne, List.take_eq_nil_iff]
              rintro (hzero | rfl)
              · exact hshared hzero
              · exact hshared rfl
            have hstep := lowered_replaces side before (lines.drop (commonLength lines next))
              (next.drop (commonLength lines next)) _ hmoved rest
            rw [List.take_append_drop, ← hstart, List.take_append_drop, hstart] at hstep
            exact (ih _).trans hstep
      | .changed s later :: rest =>
          rw [lower]
          dsimp only
          split
          · rename_i hsame
            subst hsame
            exact (ih _).trans (merged_replaces s _ _ _ _)
          · rename_i hne
            refine (ih _).trans ?_
            simp only [script_eq, List.reverse_cons, List.append_assoc, List.singleton_append]
            exact swapped_replaces (Ne.symm hne) _ _ _ _

theorem settle_replaces (side : Side) (placed : Placed) :
    ((placed.settle side).script side).Replaces (placed.script side) :=
  (lower_replaces side _ _).trans (raise_replaces side _ _)

end Placed

theorem settleAll_replaces (side : Side) (limit : Nat) (passed script : Script) :
    (settleAll side limit passed script).Replaces (passed.reverse ++ script) := by
  induction limit generalizing passed script with
  | zero => exact .refl _
  | succ limit ih =>
      match script with
      | [] =>
          rw [List.append_nil]
          exact .refl _
      | .kept lines :: rest =>
          have hnext := ih (.kept lines :: passed) rest
          rw [List.reverse_cons, List.append_assoc] at hnext
          exact hnext
      | .changed s lines :: rest =>
          rw [settleAll]
          split
          · rename_i hsame
            subst hsame
            refine (ih _ _).trans ?_
            rw [List.reverse_cons, List.append_assoc]
            exact Placed.settle_replaces s ⟨passed, lines, rest⟩
          · have hnext := ih (.changed s lines :: passed) rest
            rw [List.reverse_cons, List.append_assoc] at hnext
            exact hnext

theorem compacted_replaces (script : Script) : (compacted script).Replaces script :=
  (settleAll_replaces .new _ [] _).trans (settleAll_replaces .old _ [] script)

/-- The script that is shown belongs to the two lists of lines. -/
theorem joins_compacted (old new : List Line) :
    (compacted (shortestScript old new)).Joins old new := by
  obtain ⟨hold, hnew, htight⟩ := joins_scriptUpTo (old.length + new.length + 1) old new
  have hreplaces := compacted_replaces (shortestScript old new)
  exact ⟨(hreplaces.linesOn_eq .old).trans hold, (hreplaces.linesOn_eq .new).trans hnew,
    hreplaces.tight htight⟩

end StagedMocks.Diff
