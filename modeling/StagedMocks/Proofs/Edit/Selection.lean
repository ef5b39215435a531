import StagedMocks.Edit
import StagedMocks.Proofs.Fault
import StagedMocks.Proofs.Text

/-!
Which of many edits are applied, and what comes out. Edits are sorted by their starts, each is
taken that fits behind those taken before it, and the taken ones are spliced into the text. An
edit that does not fit leaves no trace, so edits with any offsets at all can fail in one way
only: a taken one has a start or an end inside a character.
-/
namespace StagedMocks.Edit

/-- The edits in the order of their starts, where those with equal starts stand as in `edits`. -/
structure InStableOrder (edits sorted : List Edit) : Prop where
  ordered : sorted.Pairwise fun a b => a.start ≤ b.start
  kept : ∀ start, sorted.filter (·.start = start) = edits.filter (·.start = start)

theorem InStableOrder.mem_iff {edits sorted : List Edit} (h : InStableOrder edits sorted)
    {edit : Edit} : edit ∈ sorted ↔ edit ∈ edits := by
  have hsame := congrArg (edit ∈ ·) (h.kept edit.start)
  simpa using hsame

theorem InStableOrder.head_le {edits rest : List Edit} {a : Edit}
    (h : InStableOrder edits (a :: rest)) : ∀ b ∈ edits, a.start ≤ b.start := by
  intro b hb
  obtain ⟨hfirst, -⟩ := List.pairwise_cons.mp h.ordered
  obtain rfl | hmem := List.mem_cons.mp (h.mem_iff.mpr hb)
  · exact Nat.le_refl _
  · exact hfirst b hmem

theorem InStableOrder.unique {edits sorted sorted' : List Edit} (h : InStableOrder edits sorted)
    (h' : InStableOrder edits sorted') : sorted = sorted' := by
  induction sorted generalizing edits sorted' with
  | nil =>
      cases sorted' with
      | nil => rfl
      | cons b rest' =>
          have hmem := h.mem_iff.mpr (h'.mem_iff.mp List.mem_cons_self)
          cases hmem
  | cons a rest ih =>
      cases sorted' with
      | nil =>
          have hmem := h'.mem_iff.mpr (h.mem_iff.mp List.mem_cons_self)
          cases hmem
      | cons b rest' =>
          -- Both heads have the least start, so both are the first edit of that start.
          have hab := h.head_le b (h'.mem_iff.mp List.mem_cons_self)
          have hba := h'.head_le a (h.mem_iff.mp List.mem_cons_self)
          have hstart : b.start = a.start := Nat.le_antisymm hba hab
          have hgroup := (h.kept a.start).trans (h'.kept a.start).symm
          simp only [List.filter_cons, hstart, decide_true, if_true, List.cons.injEq] at hgroup
          obtain ⟨rfl, hgroup⟩ := hgroup
          have hrest : InStableOrder rest rest' := by
            refine ⟨(List.pairwise_cons.mp h'.ordered).2, fun start => ?_⟩
            have hsame := (h.kept start).trans (h'.kept start).symm
            by_cases hs : a.start = start
            · rw [← hs, hgroup]
            · simpa [List.filter_cons, hs] using hsame.symm
          rw [ih ⟨(List.pairwise_cons.mp h.ordered).2, fun _ => rfl⟩ hrest]

theorem start_trans (a b c : Edit) (hab : decide (a.start ≤ b.start) = true)
    (hbc : decide (b.start ≤ c.start) = true) : decide (a.start ≤ c.start) = true := by
  simp only [decide_eq_true_eq] at *
  exact Nat.le_trans hab hbc

theorem start_total (a b : Edit) :
    (decide (a.start ≤ b.start) || decide (b.start ≤ a.start)) = true := by
  simp only [Bool.or_eq_true, decide_eq_true_eq]
  exact Nat.le_total a.start b.start

theorem inOrder_ordered (edits : List Edit) :
    (inOrder edits).Pairwise fun a b => a.start ≤ b.start :=
  (List.pairwise_mergeSort start_trans start_total edits).imp of_decide_eq_true

theorem inOrder_inStableOrder (edits : List Edit) : InStableOrder edits (inOrder edits) := by
  refine ⟨inOrder_ordered edits, fun start => ?_⟩
  -- The edits of one start are in order already, so sorting keeps them as a part.
  have hgroup : (edits.filter (·.start = start)).Pairwise fun a b =>
      decide (a.start ≤ b.start) = true := by
    apply List.pairwise_of_forall_mem_list
    intro a ha b hb
    simp only [List.mem_filter, decide_eq_true_eq] at ha hb ⊢
    omega
  have hpart : (edits.filter (·.start = start)).Sublist (inOrder edits) :=
    List.sublist_mergeSort start_trans start_total hgroup List.filter_sublist
  have hfiltered := hpart.filter (·.start = start)
  rw [List.filter_filter] at hfiltered
  simp only [Bool.and_self] at hfiltered
  have hlength := ((List.mergeSort_perm edits fun a b => a.start ≤ b.start).filter
    (·.start = start)).length_eq
  exact (hfiltered.eq_of_length hlength.symm).symm

theorem inStableOrder_iff {edits sorted : List Edit} :
    InStableOrder edits sorted ↔ sorted = inOrder edits := by
  constructor
  · exact fun h => h.unique (inOrder_inStableOrder edits)
  · rintro rfl
    exact inOrder_inStableOrder edits

theorem inOrder_of_ordered {edits : List Edit}
    (h : edits.Pairwise fun a b => a.start ≤ b.start) : inOrder edits = edits :=
  (inStableOrder_iff.mp ⟨h, fun _ => rfl⟩).symm

/-- The edits that are taken among sorted ones, when all bytes before `position` are settled. -/
def takenFrom (size : Nat) : Nat → List Edit → List Edit
  | _, [] => []
  | position, edit :: edits =>
      if edit.Fits position size then edit :: takenFrom size edit.finish edits
      else takenFrom size position edits

/-- The edits that are taken in a source. -/
def taken (source : Text) (edits : List Edit) : List Edit :=
  takenFrom source.byteLength 0 (inOrder edits)

/-- Edits of which each fits behind the one before it. -/
inductive Row (size : Nat) : Nat → List Edit → Prop where
  | nil {position : Nat} : Row size position []
  | cons {position : Nat} {edit : Edit} {edits : List Edit} :
      edit.Fits position size → Row size edit.finish edits → Row size position (edit :: edits)

/-- The exchange of ranges in `rest`, the part of a text from `position` on: what stands between
the ranges is kept, and each range has its new text in its place. -/
inductive Spliced : Nat → Text → List Edit → Text → Prop where
  | done {position : Nat} {rest : Text} : Spliced position rest [] rest
  | next {position : Nat} {gap old behind result : Text} {edit : Edit} {edits : List Edit} :
      position + gap.byteLength = edit.start → edit.start + old.byteLength = edit.finish →
      Spliced edit.finish behind edits result →
      Spliced position (gap ++ (old ++ behind)) (edit :: edits) (gap ++ (edit.text ++ result))

theorem takenFrom_row (size position : Nat) (edits : List Edit) :
    Row size position (takenFrom size position edits) := by
  induction edits generalizing position with
  | nil => exact .nil
  | cons edit edits ih =>
      rw [takenFrom]
      split
      · rename_i hfits
        exact .cons hfits (ih edit.finish)
      · exact ih position

theorem Row.takenFrom_eq {size position : Nat} {edits : List Edit} (h : Row size position edits) :
    takenFrom size position edits = edits := by
  induction h with
  | nil => rfl
  | cons hfits _ ih => rw [takenFrom, if_pos hfits, ih]

theorem Row.le_start {size position : Nat} {edits : List Edit} (h : Row size position edits) :
    ∀ edit ∈ edits, position ≤ edit.start := by
  induction h with
  | nil => exact fun _ hmem => absurd hmem List.not_mem_nil
  | cons hfits _ ih =>
      obtain ⟨hposition, hrange, -⟩ := hfits
      intro other hmem
      obtain rfl | hmem := List.mem_cons.mp hmem
      · exact hposition
      · have := ih other hmem
        omega

theorem Row.ordered {size position : Nat} {edits : List Edit} (h : Row size position edits) :
    edits.Pairwise fun a b => a.start ≤ b.start := by
  induction h with
  | nil => exact .nil
  | cons hfits hrow ih =>
      refine List.pairwise_cons.mpr ⟨fun other hmem => ?_, ih⟩
      exact Nat.le_trans hfits.2.1 (hrow.le_start other hmem)

/-- An edit that fits cuts the rest behind the gap and behind its range. -/
theorem applyFrom_fits {size position : Nat} {rest result : Text} {edit : Edit}
    {edits : List Edit} (h : edit.Fits position size) :
    applyFrom size position rest (edit :: edits) = .ok result ↔
      ∃ gap old behind done, rest = gap ++ (old ++ behind) ∧
        position + gap.byteLength = edit.start ∧ edit.start + old.byteLength = edit.finish ∧
        applyFrom size edit.finish behind edits = .ok done ∧
        result = gap ++ (edit.text ++ done) := by
  rw [applyFrom, if_pos h]
  obtain ⟨hposition, hrange, -⟩ := h
  constructor
  · intro h
    cases hgap : Text.cutAt? (edit.start - position) rest with
    | none => simp only [hgap, reduceCtorEq] at h
    | some parts =>
        obtain ⟨gap, tail⟩ := parts
        obtain ⟨rfl, hgap'⟩ := Text.cutAt?_eq_some_iff.mp hgap
        cases hold : Text.cutAt? (edit.finish - edit.start) tail with
        | none => simp only [hgap, hold, reduceCtorEq] at h
        | some parts =>
            obtain ⟨old, behind⟩ := parts
            obtain ⟨rfl, hold'⟩ := Text.cutAt?_eq_some_iff.mp hold
            simp only [hgap, hold] at h
            obtain ⟨done, hdone, h⟩ := bind_eq_ok h
            cases h
            exact ⟨gap, old, behind, done, rfl, by omega, by omega, hdone,
              List.append_assoc gap edit.text done⟩
  · rintro ⟨gap, old, behind, done, rfl, hstart, hfinish, hdone, rfl⟩
    have hgap : Text.cutAt? (edit.start - position) (gap ++ (old ++ behind)) =
        some (gap, old ++ behind) := Text.cutAt?_eq_some_iff.mpr ⟨rfl, by omega⟩
    have hold : Text.cutAt? (edit.finish - edit.start) (old ++ behind) =
        some (old, behind) := Text.cutAt?_eq_some_iff.mpr ⟨rfl, by omega⟩
    simp only [hgap, hold, hdone, bind, Except.bind, pure, Except.pure, List.append_assoc]

/-- Applying sorted edits is the splice of the taken ones. -/
theorem applyFrom_eq_ok_iff {size position : Nat} {rest result : Text} {edits : List Edit} :
    applyFrom size position rest edits = .ok result ↔
      Spliced position rest (takenFrom size position edits) result := by
  induction edits generalizing position rest result with
  | nil =>
      rw [applyFrom, takenFrom]
      constructor
      · intro h
        cases h
        exact .done
      · intro h
        cases h
        rfl
  | cons edit edits ih =>
      by_cases hfits : edit.Fits position size
      · rw [applyFrom_fits hfits, takenFrom, if_pos hfits]
        simp only [ih]
        constructor
        · rintro ⟨gap, old, behind, done, rfl, hstart, hfinish, hdone, rfl⟩
          exact .next hstart hfinish hdone
        · intro h
          cases h with
          | next hstart hfinish hdone => exact ⟨_, _, _, _, rfl, hstart, hfinish, hdone, rfl⟩
      · rw [applyFrom, takenFrom, if_neg hfits, if_neg hfits]
        exact ih

theorem Spliced.row {size position : Nat} {rest result : Text} {edits : List Edit}
    (h : Spliced position rest edits result) (hsize : position + rest.byteLength = size) :
    Row size position edits := by
  induction h with
  | done => exact .nil
  | next hstart hfinish _ ih =>
      simp only [Text.byteLength_append] at hsize
      exact .cons ⟨by omega, by omega, by omega⟩ (ih (by omega))

theorem Spliced.applyAll_eq {source result : Text} {edits : List Edit}
    (h : Spliced 0 source edits result) : applyAll source edits = .ok result := by
  have hrow := h.row (Nat.zero_add source.byteLength)
  rw [applyAll, inOrder_of_ordered hrow.ordered, applyFrom_eq_ok_iff, hrow.takenFrom_eq]
  exact h

theorem Spliced.isBoundary {position : Nat} {rest result : Text} {edits : List Edit}
    (h : Spliced position rest edits result) (front : Text)
    (hfront : front.byteLength = position) :
    ∀ edit ∈ edits, Text.IsBoundary (front ++ rest) edit.start ∧
      Text.IsBoundary (front ++ rest) edit.finish := by
  induction h generalizing front with
  | done => exact fun _ hmem => absurd hmem List.not_mem_nil
  | @next position gap old behind result edit edits hstart hfinish _ ih =>
      have hgap : (front ++ gap).byteLength = edit.start := by
        rw [Text.byteLength_append]
        omega
      have hold : (front ++ gap ++ old).byteLength = edit.finish := by
        rw [Text.byteLength_append]
        omega
      have hlater := ih (front ++ gap ++ old) hold
      simp only [List.append_assoc] at hlater
      refine List.forall_mem_cons.mpr ⟨⟨?_, ?_⟩, hlater⟩
      · exact ⟨front ++ gap, old ++ behind, by simp only [List.append_assoc], hgap⟩
      · exact ⟨front ++ gap ++ old, behind, by simp only [List.append_assoc], hold⟩

theorem Row.exists_spliced {size position : Nat} {edits : List Edit} (h : Row size position edits)
    (front rest : Text) (hfront : front.byteLength = position)
    (hedits : ∀ edit ∈ edits, Text.IsBoundary (front ++ rest) edit.start ∧
      Text.IsBoundary (front ++ rest) edit.finish) :
    ∃ result, Spliced position rest edits result := by
  induction h generalizing front rest with
  | nil => exact ⟨rest, .done⟩
  | cons hfits _ ih =>
      obtain ⟨⟨⟨x, y, hsplit, hstart⟩, z, w, hsplit', hfinish⟩, hlater⟩ :=
        List.forall_mem_cons.mp hedits
      obtain ⟨hposition, hrange, -⟩ := hfits
      obtain ⟨gap, rfl, rfl⟩ := Text.append_eq_append_of_byteLength_le hsplit (by omega)
      rw [← List.append_assoc] at hsplit' hlater
      obtain ⟨old, rfl, rfl⟩ := Text.append_eq_append_of_byteLength_le hsplit' (by omega)
      rw [← List.append_assoc] at hlater
      obtain ⟨result, hrest⟩ := ih _ _ hfinish hlater
      simp only [Text.byteLength_append] at hstart hfinish
      exact ⟨_, .next (by omega) (by omega) hrest⟩

/-- The number of bytes that the ranges of some edits take. -/
def removedBytes : List Edit → Nat
  | [] => 0
  | edit :: edits => edit.finish - edit.start + removedBytes edits

/-- The number of bytes that the new texts of some edits take. -/
def writtenBytes : List Edit → Nat
  | [] => 0
  | edit :: edits => edit.text.byteLength + writtenBytes edits

theorem Spliced.byteLength_eq {position : Nat} {rest result : Text} {edits : List Edit}
    (h : Spliced position rest edits result) :
    result.byteLength + removedBytes edits = rest.byteLength + writtenBytes edits ∧
      removedBytes edits ≤ rest.byteLength := by
  induction h with
  | done => simp [removedBytes, writtenBytes]
  | next hstart hfinish _ ih =>
      simp only [removedBytes, writtenBytes, Text.byteLength_append] at ih ⊢
      omega

theorem exists_applyAll_iff {source : Text} {edits : List Edit} :
    (∃ result, applyAll source edits = .ok result) ↔
      ∀ edit ∈ taken source edits,
        Text.IsBoundary source edit.start ∧ Text.IsBoundary source edit.finish := by
  simp only [applyAll, applyFrom_eq_ok_iff]
  constructor
  · rintro ⟨result, hspliced⟩
    exact hspliced.isBoundary [] rfl
  · exact (takenFrom_row source.byteLength 0 (inOrder edits)).exists_spliced [] source rfl

theorem eq_error_iff {outcome : Except Fault Text} :
    outcome = .error .offBoundary ↔ ¬ ∃ result, outcome = .ok result := by
  cases outcome with
  | error fault =>
      cases fault
      simp
  | ok result => simp

theorem eq_of_ok_iff {outcome outcome' : Except Fault Text}
    (h : ∀ result, outcome = .ok result ↔ outcome' = .ok result) : outcome = outcome' := by
  cases outcome with
  | ok result => exact ((h result).mp rfl).symm
  | error fault =>
      have hnone : ¬ ∃ result, outcome' = .ok result := by
        rintro ⟨result, hok⟩
        cases (h result).mpr hok
      cases fault
      exact (eq_error_iff.mpr hnone).symm

theorem inOrder_taken (source : Text) (edits : List Edit) :
    inOrder (taken source edits) = taken source edits :=
  inOrder_of_ordered (takenFrom_row source.byteLength 0 (inOrder edits)).ordered

theorem applyAll_taken (source : Text) (edits : List Edit) :
    applyAll source (taken source edits) = applyAll source edits := by
  apply eq_of_ok_iff
  intro result
  rw [applyAll, applyAll, applyFrom_eq_ok_iff, applyFrom_eq_ok_iff, inOrder_taken, taken,
    (takenFrom_row _ _ _).takenFrom_eq]

/-- Edits are applied as they are specified. Sorted by their starts in a stable way, each that
fits behind the taken ones is taken. It fails exactly if a range of a taken edit begins or ends
inside a character. Otherwise the ranges of the taken edits have their new texts, all else stands
in its place, and the lengths add up. The other edits have no effect. -/
theorem applyAll_spec (source : Text) (edits : List Edit) :
    (∀ sorted, InStableOrder edits sorted ↔ sorted = inOrder edits) ∧
    (applyAll source edits = .error .offBoundary ↔
      ∃ edit ∈ taken source edits,
        ¬ Text.IsBoundary source edit.start ∨ ¬ Text.IsBoundary source edit.finish) ∧
    ((∀ edit ∈ taken source edits,
        Text.IsBoundary source edit.start ∧ Text.IsBoundary source edit.finish) →
      ∃ result, applyAll source edits = .ok result ∧
        Spliced 0 source (taken source edits) result ∧
        removedBytes (taken source edits) ≤ source.byteLength ∧
        result.byteLength = source.byteLength - removedBytes (taken source edits) +
          writtenBytes (taken source edits)) ∧
    applyAll source (taken source edits) = applyAll source edits := by
  refine ⟨fun _ => inStableOrder_iff, ?_, ?_, applyAll_taken source edits⟩
  · rw [eq_error_iff, exists_applyAll_iff]
    simp only [not_forall, not_and_or, exists_prop]
  · intro hboundaries
    obtain ⟨result, hresult⟩ := exists_applyAll_iff.mpr hboundaries
    have hspliced := applyFrom_eq_ok_iff.mp hresult
    obtain ⟨hlength, hremoved⟩ := hspliced.byteLength_eq
    refine ⟨result, hresult, hspliced, hremoved, ?_⟩
    rw [taken]
    omega

/-- Edits of a text of four bytes: one that overlaps an earlier one, one whose end is in front of
its start, one that ends behind the text, and three that are taken. -/
def strayEdits : List Edit :=
  [⟨3, 4, ['z']⟩, ⟨0, 1, ['x']⟩, ⟨0, 3, ['o']⟩, ⟨3, 2, ['i']⟩, ⟨1, 1, ['y']⟩, ⟨2, 9, ['b']⟩]

theorem applyAll_spec_strayEdits :
    taken ['a', 'é', 'b'] strayEdits = [⟨0, 1, ['x']⟩, ⟨1, 1, ['y']⟩, ⟨3, 4, ['z']⟩] ∧
    (∀ edit ∈ taken ['a', 'é', 'b'] strayEdits,
      Text.IsBoundary ['a', 'é', 'b'] edit.start ∧ Text.IsBoundary ['a', 'é', 'b'] edit.finish) ∧
    ∃ result, applyAll ['a', 'é', 'b'] strayEdits = .ok result ∧
      Spliced 0 ['a', 'é', 'b'] (taken ['a', 'é', 'b'] strayEdits) result ∧
      removedBytes (taken ['a', 'é', 'b'] strayEdits) ≤ Text.byteLength ['a', 'é', 'b'] ∧
      result.byteLength = Text.byteLength ['a', 'é', 'b'] -
        removedBytes (taken ['a', 'é', 'b'] strayEdits) +
          writtenBytes (taken ['a', 'é', 'b'] strayEdits) := by
  have hsorted : inOrder strayEdits =
      [⟨0, 1, ['x']⟩, ⟨0, 3, ['o']⟩, ⟨1, 1, ['y']⟩, ⟨2, 9, ['b']⟩, ⟨3, 4, ['z']⟩,
        ⟨3, 2, ['i']⟩] := by
    refine (inStableOrder_iff.mp ⟨by decide, fun start => ?_⟩).symm
    match start with
    | 0 | 1 | 2 | 3 => decide
    | start + 4 => simp [strayEdits]
  have htaken : taken ['a', 'é', 'b'] strayEdits =
      [⟨0, 1, ['x']⟩, ⟨1, 1, ['y']⟩, ⟨3, 4, ['z']⟩] := by
    rw [taken, hsorted]
    decide
  have hboundaries : ∀ edit ∈ taken ['a', 'é', 'b'] strayEdits,
      Text.IsBoundary ['a', 'é', 'b'] edit.start ∧
      Text.IsBoundary ['a', 'é', 'b'] edit.finish := by
    rw [htaken]
    decide
  obtain ⟨-, -, hspliced, -⟩ := applyAll_spec ['a', 'é', 'b'] strayEdits
  exact ⟨htaken, hboundaries, hspliced hboundaries⟩

end StagedMocks.Edit
