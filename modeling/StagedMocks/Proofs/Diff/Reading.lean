import StagedMocks.Diff.Unified
import StagedMocks.Proofs.Diff.Patch
import StagedMocks.Proofs.Text

/-!
Reading a printed difference. A patch is read line by line. The first line of a hunk says how many
lines of either text follow it, so no line of a text is mistaken for the beginning of a hunk,
whatever it looks like. What is read leads from the old text to the new one, and back.
-/
namespace StagedMocks.Diff

/-- The remark behind a line that lacks its line feed. -/
def remark : Line := "\\ No newline at end of file\n".toList

/-- The lines of a patch, each without its line feed if the remark follows it. -/
def joined : List Line → List Line
  | [] => []
  | [line] => [line]
  | line :: next :: rest =>
      if next = remark then line.dropLast :: joined rest else line :: joined (next :: rest)

/-- The number that a text begins with, and what follows it. -/
def number? (s : Text) : Option (Nat × Text) :=
  let digits := s.takeWhile Char.isDigit
  if digits = [] then none
  else some (Nat.ofDigitChars 10 digits 0, s.dropWhile Char.isDigit)

/-- The start and the length of the range that a text begins with, and what follows it. A range
without a length has one line, and one without lines names the line before it. -/
def range? (s : Text) : Option (Nat × Nat × Text) := do
  let (first, rest) ← number? s
  let (count, rest) ← match rest with
    | ',' :: rest => number? rest
    | rest => some (1, rest)
  if count = 0 then return (first, 0, rest)
  else if first = 0 then none
  else return (first - 1, count, rest)

/-- The hunk that a line begins, without its lines. -/
def header? (line : Line) : Option Hunk := do
  let rest ← Text.after? ['@', '@', ' ', '-'] line
  let (oldStart, oldCount, rest) ← range? rest
  let rest ← Text.after? [' ', '+'] rest
  let (newStart, newCount, rest) ← range? rest
  let _ ← Text.after? [' ', '@', '@'] rest
  return { oldStart, oldCount, newStart, newCount, lines := [] }

/-- A line of a hunk by its sign; an empty line stands for one that is kept. -/
def HunkLine.read? : Line → Option HunkLine
  | ' ' :: line => some (.context line)
  | '-' :: line => some (.deleted line)
  | '+' :: line => some (.inserted line)
  | ['\n'] => some (.context ['\n'])
  | _ => none

/-- The lines that are left of a hunk, which shows `oldLeft` and `newLeft` more lines of the texts,
and the hunks behind it. -/
def readFrom? (oldLeft newLeft : Nat) : List Line → Option (List HunkLine × List Hunk)
  | [] => if oldLeft = 0 ∧ newLeft = 0 then some ([], []) else none
  | line :: rest =>
      if oldLeft = 0 ∧ newLeft = 0 then do
        let hunk ← header? line
        let (shown, hunks) ← readFrom? hunk.oldCount hunk.newCount rest
        return ([], { hunk with lines := shown } :: hunks)
      else do
        let first ← HunkLine.read? line
        let oldTaken := (first.linesOn .old).length
        let newTaken := (first.linesOn .new).length
        if oldTaken ≤ oldLeft ∧ newTaken ≤ newLeft then
          let (shown, hunks) ← readFrom? (oldLeft - oldTaken) (newLeft - newTaken) rest
          return (first :: shown, hunks)
        else none

/-- The hunks of a patch without the lines that name its texts. -/
def read? (patch : Text) : Option (List Hunk) :=
  (readFrom? 0 0 (joined (lines patch))).map Prod.snd

/-- A line as a text can have it: it ends in its only line feed, or it is a last line without one. -/
inductive IsLine : Line → Prop where
  | ended {s : Text} : '\n' ∉ s → IsLine (s ++ ['\n'])
  | last {s : Text} : '\n' ∉ s → s ≠ [] → IsLine s

theorem lines_ended {s : Text} (h : '\n' ∉ s) (rest : Text) :
    lines (s ++ '\n' :: rest) = (s ++ ['\n']) :: lines rest := by
  induction s with
  | nil => rw [List.nil_append, lines, if_pos rfl, List.nil_append]
  | cons c s ih =>
      rw [List.cons_append, lines, if_neg (List.ne_of_not_mem_cons h).symm,
        ih (List.not_mem_of_not_mem_cons h)]
      rfl

theorem IsLine.cons {c : Char} {line : Line} (hc : c ≠ '\n') (h : IsLine line) :
    IsLine (c :: line) := by
  cases h with
  | ended hs => exact .ended (List.not_mem_cons_of_ne_of_not_mem hc.symm hs)
  | last hs hne => exact .last (List.not_mem_cons_of_ne_of_not_mem hc.symm hs) (List.cons_ne_nil _ _)

theorem IsLine.ne_nil {line : Line} (h : IsLine line) : line ≠ [] := by
  cases h with
  | ended _ => simp
  | last _ hne => exact hne

theorem isLine_of_mem_lines {text : Text} {line : Line} (h : line ∈ lines text) : IsLine line := by
  induction text generalizing line with
  | nil => cases h
  | cons c text ih =>
      rw [lines] at h
      split at h
      · obtain rfl | h := List.mem_cons.mp h
        · exact .ended List.not_mem_nil
        · exact ih h
      · rename_i hc
        cases hlines : lines text with
        | nil =>
            rw [hlines] at h
            obtain rfl := List.mem_singleton.mp h
            exact .last (by simpa using Ne.symm hc) (List.cons_ne_nil _ _)
        | cons first rest =>
            rw [hlines] at h ih
            obtain rfl | h := List.mem_cons.mp h
            · exact (ih List.mem_cons_self).cons hc
            · exact ih (List.mem_cons_of_mem _ h)

theorem head?_of_head?_lines {text : Text} {line : Line} (h : (lines text).head? = some line) :
    line.head? = text.head? := by
  cases text with
  | nil => cases h
  | cons c text =>
      rw [lines] at h
      split at h
      · rename_i hc
        rw [← Option.some.inj h, hc]
        rfl
      · cases hlines : lines text with
        | nil =>
            rw [hlines] at h
            rw [← Option.some.inj h]
            rfl
        | cons first rest =>
            rw [hlines] at h
            rw [← Option.some.inj h]
            rfl

/-- A line of a patch, with the remark if it lacks its line feed. -/
def finished (line : Line) : Text :=
  if line.endsWith '\n' then line else line ++ missingLineFeed

theorem finished_ended (s : Text) : finished (s ++ ['\n']) = s ++ ['\n'] := by
  rw [finished, if_pos (by simp [Text.endsWith])]

theorem finished_last {s : Text} (h : '\n' ∉ s) : finished s = s ++ '\n' :: remark := by
  rw [finished, if_neg]
  · rfl
  · intro hends
    rw [Text.endsWith, beq_iff_eq] at hends
    exact h (List.mem_of_getLast? hends)

theorem joined_cons {line : Line} {rest : List Line} (h : rest.head? ≠ some remark) :
    joined (line :: rest) = line :: joined rest := by
  cases rest with
  | nil => rfl
  | cons next rest => rw [joined, if_neg (fun hnext => h (congrArg some hnext))]

theorem lines_remark (rest : Text) : lines (remark ++ rest) = remark :: lines rest := by
  have hremark : remark = "\\ No newline at end of file".toList ++ ['\n'] := by decide
  rw [hremark, List.append_assoc]
  exact lines_ended (by decide) rest

theorem head?_finished_append {line : Line} (h : line ≠ []) (rest : Text) :
    (finished line ++ rest).head? = line.head? := by
  cases line with
  | nil => exact absurd rfl h
  | cons c line =>
      rw [finished]
      split <;> rfl

theorem joined_lines_finished_append {line : Line} (h : IsLine line) {rest : Text}
    (hrest : rest.head? ≠ some '\\') :
    joined (lines (finished line ++ rest)) = line :: joined (lines rest) := by
  cases h with
  | @ended s hs =>
      rw [finished_ended, List.append_assoc, List.singleton_append, lines_ended hs]
      refine joined_cons ?_
      intro hremark
      exact hrest (head?_of_head?_lines hremark).symm
  | last hs _ =>
      rw [finished_last hs, List.append_assoc, List.cons_append, lines_ended hs, lines_remark, joined,
        if_pos rfl, List.dropLast_concat]

/-- The lines of a patch are read back, if none of them looks like the remark. -/
theorem joined_lines_flatMap {written : List Line}
    (h : ∀ line ∈ written, IsLine line ∧ line.head? ≠ some '\\') :
    joined (lines (written.flatMap finished)) = written := by
  induction written with
  | nil => rfl
  | cons line written ih =>
      obtain ⟨hline, hwritten⟩ := List.forall_mem_cons.mp h
      have hrest : (written.flatMap finished).head? ≠ some '\\' := by
        cases written with
        | nil => simp
        | cons next written =>
            obtain ⟨hnext, hhead⟩ := hwritten next List.mem_cons_self
            rwa [List.flatMap_cons, head?_finished_append hnext.ne_nil]
      rw [List.flatMap_cons, joined_lines_finished_append hline.1 hrest, ih hwritten]

theorem number?_ofNat (n : Nat) {rest : Text} (h : ∀ c ∈ rest.head?, c.isDigit = false) :
    number? (Text.ofNat n ++ rest) = some (n, rest) := by
  have hdigits : ∀ c ∈ Text.ofNat n, c.isDigit = true := fun c hc =>
    Nat.isDigit_of_mem_toDigits (by decide) (by decide) hc
  rw [number?, Text.takeWhile_run hdigits h, Text.dropWhile_run hdigits h]
  simp only [Text.ofNat, Nat.toDigits_ne_nil, if_false, Nat.ofDigitChars_ten_toDigits]

theorem range?_rangeText (start count : Nat) (rest : Text) :
    range? (rangeText start count ++ ' ' :: rest) = some (start, count, ' ' :: rest) := by
  have hblank : ∀ c ∈ (' ' :: rest).head?, c.isDigit = false := by simp
  have hcomma : ∀ c ∈ (',' :: (Text.ofNat count ++ ' ' :: rest)).head?, c.isDigit = false := by simp
  rw [range?, rangeText]
  by_cases hone : count = 1
  · simp [hone, number?_ofNat _ hblank]
  · by_cases hnone : count = 0
    · subst hnone
      simp [number?_ofNat _ hblank, number?_ofNat _ hcomma]
    · simp [hone, hnone, number?_ofNat _ hblank, number?_ofNat _ hcomma]

namespace HunkLine

/-- A line of a hunk behind its sign. -/
def written : HunkLine → Line
  | .context line => if line = ['\n'] then line else ' ' :: line
  | .deleted line => '-' :: line
  | .inserted line => '+' :: line

theorem signed_eq {sign : Char} (h : sign ≠ '\n') (line : Line) :
    signed sign line = finished (sign :: line) := by
  have hends : Text.endsWith '\n' (sign :: line) = Text.endsWith '\n' line := by
    cases line with
    | nil => simp [Text.endsWith, h]
    | cons c line => simp [Text.endsWith]
  rw [signed, finished, hends]

theorem text_eq (line : HunkLine) : line.text = finished line.written := by
  cases line with
  | context line =>
      rw [text, written]
      split
      · rename_i hline
        rw [hline]
        rfl
      · exact signed_eq (by decide) line
  | deleted line => exact signed_eq (by decide) line
  | inserted line => exact signed_eq (by decide) line

theorem read?_written (line : HunkLine) : read? line.written = some line := by
  cases line with
  | context line =>
      rw [written]
      split
      · rename_i hline
        rw [hline]
        rfl
      · rfl
  | deleted line => rfl
  | inserted line => rfl

end HunkLine

namespace Hunk

/-- The first line of a hunk. -/
def header (hunk : Hunk) : Line :=
  ['@', '@', ' ', '-'] ++ rangeText hunk.oldStart hunk.oldCount ++ [' ', '+'] ++
    rangeText hunk.newStart hunk.newCount ++ [' ', '@', '@'] ++ ['\n']

/-- The lines of a patch that a hunk is written in. -/
def written (hunk : Hunk) : List Line :=
  hunk.header :: hunk.lines.map HunkLine.written

theorem text_eq_header_append (hunk : Hunk) :
    hunk.text = hunk.header ++ hunk.lines.flatMap HunkLine.text := by
  have htext : hunk.text = "@@ -".toList ++ rangeText hunk.oldStart hunk.oldCount ++
      " +".toList ++ rangeText hunk.newStart hunk.newCount ++ " @@\n".toList ++
      hunk.lines.flatMap HunkLine.text := rfl
  simp [htext, header]

theorem text_eq (hunk : Hunk) : hunk.text = hunk.written.flatMap finished := by
  have hlines : hunk.lines.flatMap HunkLine.text =
      (hunk.lines.map HunkLine.written).flatMap finished := by
    rw [List.flatMap_map]
    exact List.flatMap_congr fun line _ => line.text_eq
  have hheader : finished hunk.header = hunk.header := finished_ended _
  rw [text_eq_header_append, written, List.flatMap_cons, hheader, hlines]

theorem not_mem_rangeText (start count : Nat) : '\n' ∉ rangeText start count := by
  have hnumber : ∀ n, '\n' ∉ Text.ofNat n := fun n h =>
    absurd (Nat.isDigit_of_mem_toDigits (by decide) (by decide) h) (by decide)
  rw [rangeText]
  split <;> simp [hnumber]

theorem isLine_header (hunk : Hunk) : IsLine hunk.header := by
  refine .ended ?_
  simp [not_mem_rangeText]

theorem header?_header (hunk : Hunk) : header? hunk.header = some { hunk with lines := [] } := by
  have hheader : hunk.header = ['@', '@', ' ', '-'] ++ (rangeText hunk.oldStart hunk.oldCount ++
      ' ' :: '+' :: (rangeText hunk.newStart hunk.newCount ++ [' ', '@', '@', '\n'])) := by
    simp [header]
  have hsecond (rest : Text) : Text.after? [' ', '+'] (' ' :: '+' :: rest) = some rest :=
    Text.after?_append [' ', '+'] rest
  rw [header?, hheader, Text.after?_append]
  simp only [Option.bind_eq_bind, Option.bind_some, range?_rangeText, hsecond]
  rfl

end Hunk

/-- The lines of a hunk are read to the end that its first line announces. -/
theorem readFrom?_shown (shown : List HunkLine) (rest : List Line) :
    readFrom? (shownOn .old shown).length (shownOn .new shown).length
        (shown.map HunkLine.written ++ rest) =
      (readFrom? 0 0 rest).map fun read => (shown ++ read.1, read.2) := by
  induction shown with
  | nil => simp [shownOn]
  | cons line shown ih =>
      have hcons : ∀ side, (shownOn side (line :: shown)).length =
          (line.linesOn side).length + (shownOn side shown).length := by
        intro side
        rw [shownOn, List.flatMap_cons, List.length_append, shownOn]
      -- Every line of a hunk stands in one of the texts.
      have hcounted : ¬ ((shownOn .old (line :: shown)).length = 0 ∧
          (shownOn .new (line :: shown)).length = 0) := by
        rw [hcons, hcons]
        cases line <;> simp [HunkLine.linesOn]
      rw [List.map_cons, List.cons_append, readFrom?, if_neg hcounted, line.read?_written]
      simp only [Option.bind_eq_bind, Option.bind_some, hcons, Nat.le_add_right, and_self, if_true,
        Nat.add_sub_cancel_left, ih]
      cases readFrom? 0 0 rest with
      | none => rfl
      | some read => rfl

/-- A hunk that holds as many lines as its ranges say, and holds them whole. -/
structure Hunk.IsWhole (hunk : Hunk) : Prop where
  oldCount : hunk.oldCount = (shownOn .old hunk.lines).length
  newCount : hunk.newCount = (shownOn .new hunk.lines).length
  isLine : ∀ side, ∀ line ∈ shownOn side hunk.lines, IsLine line

theorem Patches.isWhole {x y : Nat} {old new : List Line} {hunks : List Hunk}
    (h : Patches x y old new hunks) (hold : ∀ line ∈ old, IsLine line)
    (hnew : ∀ line ∈ new, IsLine line) : ∀ hunk ∈ hunks, hunk.IsWhole := by
  induction h with
  | none => exact fun hunk hhunk => absurd hhunk List.not_mem_nil
  | next _ _ holdCount hnewCount _ ih =>
      simp only [List.forall_mem_append] at hold hnew
      refine List.forall_mem_cons.mpr ⟨⟨holdCount, hnewCount, ?_⟩, ih hold.2 hnew.2⟩
      intro side
      cases side with
      | old => exact hold.1.2
      | new => exact hnew.1.2

theorem readFrom?_hunks {hunks : List Hunk} (h : ∀ hunk ∈ hunks, hunk.IsWhole) :
    readFrom? 0 0 (hunks.flatMap Hunk.written) = some ([], hunks) := by
  induction hunks with
  | nil => rfl
  | cons hunk hunks ih =>
      obtain ⟨hhunk, hhunks⟩ := List.forall_mem_cons.mp h
      have hbody : readFrom? hunk.oldCount hunk.newCount
          (hunk.lines.map HunkLine.written ++ hunks.flatMap Hunk.written) =
            some (hunk.lines, hunks) := by
        rw [hhunk.oldCount, hhunk.newCount, readFrom?_shown, ih hhunks, Option.map_some,
          List.append_nil]
      rw [List.flatMap_cons, Hunk.written, List.cons_append, readFrom?, if_pos ⟨rfl, rfl⟩,
        hunk.header?_header]
      simp only [Option.bind_eq_bind, Option.bind_some, hbody]
      rfl

theorem Hunk.IsWhole.isLine_of_mem {hunk : Hunk} (h : hunk.IsWhole) {shown : HunkLine}
    (hshown : shown ∈ hunk.lines) (side : Side) {line : Line} (hline : line ∈ shown.linesOn side) :
    IsLine line :=
  h.isLine side line (List.mem_flatMap.mpr ⟨shown, hshown, hline⟩)

/-- No line of a hunk looks like the remark, since its sign comes first. -/
theorem Hunk.IsWhole.isLine_written {hunk : Hunk} (h : hunk.IsWhole) :
    ∀ line ∈ hunk.written, IsLine line ∧ line.head? ≠ some '\\' := by
  rw [Hunk.written, List.forall_mem_cons]
  refine ⟨⟨hunk.isLine_header, by simp [Hunk.header]⟩, ?_⟩
  intro line hline
  obtain ⟨shown, hshown, rfl⟩ := List.mem_map.mp hline
  cases shown with
  | context line =>
      have hwhole : IsLine line := h.isLine_of_mem hshown .old (List.mem_singleton_self line)
      rw [HunkLine.written]
      split
      · rename_i hempty
        exact ⟨hwhole, by rw [hempty]; decide⟩
      · exact ⟨hwhole.cons (by decide), by simp⟩
  | deleted line =>
      have hwhole : IsLine line := h.isLine_of_mem hshown .old (List.mem_singleton_self line)
      exact ⟨hwhole.cons (by decide), by simp [HunkLine.written]⟩
  | inserted line =>
      have hwhole : IsLine line := h.isLine_of_mem hshown .new (List.mem_singleton_self line)
      exact ⟨hwhole.cons (by decide), by simp [HunkLine.written]⟩

/-- Hunks are read back from what is written for them. -/
theorem read?_text {hunks : List Hunk} (h : ∀ hunk ∈ hunks, hunk.IsWhole) :
    read? (hunks.flatMap Hunk.text) = some hunks := by
  have hwritten : hunks.flatMap Hunk.text = (hunks.flatMap Hunk.written).flatMap finished := by
    rw [List.flatMap_assoc]
    exact List.flatMap_congr fun hunk _ => hunk.text_eq
  rw [read?, hwritten, joined_lines_flatMap, readFrom?_hunks h, Option.map_some]
  intro line hline
  obtain ⟨hunk, hhunk, hline⟩ := List.mem_flatMap.mp hline
  exact (h hunk hhunk).isLine_written line hline

/-- Two lines of the new text follow the ranges, so the second of them begins no hunk. -/
example : read? "@@ -2,0 +3,2 @@\n+a\n+@@ -1 +1 @@\n\\ No newline at end of file\n".toList =
    some [⟨2, 0, 2, 2, [.inserted "a\n".toList, .inserted "@@ -1 +1 @@".toList]⟩] := by
  decide

/-- A patch is cut where its first hunk begins, if no character before could begin one. -/
theorem fromHunks_append {front behind : Text} (hfront : '@' ∉ front) (h : "@@".toList <+: behind) :
    fromHunks (front ++ behind) = behind := by
  have hfound : (Text.ends (front ++ behind)).find? "@@".toList.isPrefixOf = some behind := by
    induction front with
    | nil =>
        cases behind with
        | nil => cases List.prefix_nil.mp h
        | cons c behind =>
            rw [List.nil_append, Text.ends,
              List.find?_cons_of_pos (List.isPrefixOf_iff_prefix.mpr h)]
    | cons c front ih =>
        rw [List.cons_append, Text.ends, List.find?_cons_of_neg,
          ih (List.not_mem_of_not_mem_cons hfront)]
        rw [List.isPrefixOf_iff_prefix]
        intro hc
        exact List.ne_of_not_mem_cons hfront (List.cons_prefix_cons.mp hc).1
  rw [fromHunks, hfound, Option.getD_some]

theorem fromHunks_patchText {old new : Text} (h : hunksBetween old new ≠ []) :
    fromHunks (patchText old new) = (hunksBetween old new).flatMap Hunk.text := by
  have hheader : '@' ∉ "--- original\n+++ modified\n".toList := by decide
  refine fromHunks_append hheader ?_
  cases hhunks : hunksBetween old new with
  | nil => exact absurd hhunks h
  | cons hunk hunks =>
      rw [List.flatMap_cons, hunk.text_eq_header_append]
      exact ⟨_, rfl⟩

theorem unified_eq_nil_iff (filename old new : Text) :
    unified filename old new = [] ↔ old = new := by
  rw [unified]
  split
  · simp [*]
  · simp [*]

/-- The difference of two texts is empty just if they are equal. Otherwise its hunks make the new
text of the old one, and reversed the old text of the new one. -/
theorem unified_patches (filename old new : Text) :
    (unified filename old new = [] ↔ old = new) ∧
      (old = new ∨ ∃ patch hunks,
        unified filename old new =
          "--- ".toList ++ filename ++ "\n+++ ".toList ++ filename ++ ['\n'] ++ patch ∧
        hunks ≠ [] ∧ read? patch = some hunks ∧ patched? hunks old = some new ∧
        patched? (hunks.map Hunk.reversed) new = some old) := by
  refine ⟨unified_eq_nil_iff filename old new, ?_⟩
  by_cases hequal : old = new
  · exact .inl hequal
  have hlines : lines old ≠ lines new := fun h => hequal (by
    rw [← flatten_lines old, h, flatten_lines new])
  have hjoins := joins_compacted (lines old) (lines new)
  have hpatches : Patches 0 0 (lines old) (lines new) (hunksBetween old new) :=
    patches_hunks hjoins
  have hsome : hunksBetween old new ≠ [] := hunks_ne_nil hjoins hlines
  have hwhole : ∀ hunk ∈ hunksBetween old new, hunk.IsWhole :=
    hpatches.isWhole (fun _ => isLine_of_mem_lines) (fun _ => isLine_of_mem_lines)
  refine .inr ⟨_, hunksBetween old new, ?_, hsome, read?_text hwhole,
    patched?_of_patches hpatches, patched?_of_patches hpatches.reversed⟩
  rw [unified, if_neg hequal, fromHunks_patchText hsome]

end StagedMocks.Diff
