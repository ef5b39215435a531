import Mathlib.Data.List.Chain
import Mathlib.Data.List.Nodup
import StagedMocks.Proofs.Edit.Selection

/-!
The order of edits. Edits with distinct starts can be sorted in one way only, so they may be given
in any order. Edits of which each ends before the next one begins may as well be applied one at a
time, from the last to the first: an edit leaves all that stands before it, so the offsets of those
that are still to come hold in the changed text.
-/
namespace StagedMocks.Edit

theorem inOrder_perm {edits edits' : List Edit} (h : edits.Perm edits')
    (hdistinct : (edits.map Edit.start).Nodup) : inOrder edits = inOrder edits' := by
  have hsorted := List.mergeSort_perm edits fun a b => decide (a.start ≤ b.start)
  have hsorted' := List.mergeSort_perm edits' fun a b => decide (a.start ≤ b.start)
  refine List.Perm.eq_of_pairwise ?_ (inOrder_ordered edits) (inOrder_ordered edits')
    (hsorted.trans (h.trans hsorted'.symm))
  intro a b ha hb hab hba
  have ha' : a ∈ edits := hsorted.mem_iff.mp ha
  have hb' : b ∈ edits := h.mem_iff.mpr (hsorted'.mem_iff.mp hb)
  exact List.inj_on_of_nodup_map hdistinct ha' hb' (Nat.le_antisymm hab hba)

theorem row_of_chain {size position : Nat} {edits : List Edit}
    (hchain : edits.IsChain fun a b => a.finish ≤ b.start)
    (hranges : ∀ edit ∈ edits, edit.start ≤ edit.finish ∧ edit.finish ≤ size)
    (hfirst : ∀ edit ∈ edits.head?, position ≤ edit.start) : Row size position edits := by
  induction edits generalizing position with
  | nil => exact .nil
  | cons edit edits ih =>
      obtain ⟨hnext, hchain⟩ := List.isChain_cons.mp hchain
      obtain ⟨hrange, hranges⟩ := List.forall_mem_cons.mp hranges
      exact .cons ⟨hfirst edit rfl, hrange⟩ (ih hchain hranges hnext)

theorem applyAll_single {front old behind : Text} {edit : Edit}
    (hstart : front.byteLength = edit.start) (hfinish : edit.start + old.byteLength = edit.finish) :
    applyAll (front ++ (old ++ behind)) [edit] = .ok (front ++ (edit.text ++ behind)) := by
  have hspliced : Spliced 0 (front ++ (old ++ behind)) [edit] (front ++ (edit.text ++ behind)) :=
    .next (by omega) hfinish .done
  exact hspliced.applyAll_eq

/-- Edits applied one at a time, the last one first. -/
def applyEach (source : Text) (edits : List Edit) : Except Fault Text :=
  edits.foldrM (fun edit text => applyAll text [edit]) source

theorem applyEach_cons (source : Text) (edit : Edit) (edits : List Edit) :
    applyEach source (edit :: edits) =
      applyEach source edits >>= fun text => applyAll text [edit] :=
  List.foldrM_cons

theorem Spliced.applyEach_eq {position : Nat} {rest result : Text} {edits : List Edit}
    (h : Spliced position rest edits result) (front : Text)
    (hfront : front.byteLength = position) :
    applyEach (front ++ rest) edits = .ok (front ++ result) := by
  induction h generalizing front with
  | done => rfl
  | @next position gap old behind result edit edits hstart hfinish _ ih =>
      have hgap : (front ++ gap).byteLength = edit.start := by
        rw [Text.byteLength_append]
        omega
      have hold : (front ++ gap ++ old).byteLength = edit.finish := by
        rw [Text.byteLength_append]
        omega
      -- The text before the edit is as it was, so its range is still in its place.
      have hlater := ih (front ++ gap ++ old) hold
      have hlast := @applyAll_single _ old result edit hgap hfinish
      simp only [List.append_assoc] at hlater hlast ⊢
      rw [applyEach_cons, hlater]
      exact hlast

/-- Edits with distinct starts may be given in any order. Edits in the text, each of which ends
before the next one begins, give the same text when they are applied together and when they are
applied one at a time, from the last to the first. -/
theorem applyAll_any_order (source : Text) :
    (∀ edits edits' : List Edit, edits.Perm edits' → (edits.map Edit.start).Nodup →
      applyAll source edits = applyAll source edits') ∧
    ∀ edits : List Edit, (edits.IsChain fun a b => a.finish ≤ b.start) →
      (∀ edit ∈ edits, edit.start ≤ edit.finish ∧ Text.IsBoundary source edit.start ∧
        Text.IsBoundary source edit.finish) →
      ∃ result, applyAll source edits = .ok result ∧ applyEach source edits = .ok result := by
  constructor
  · intro edits edits' h hdistinct
    rw [applyAll, applyAll, inOrder_perm h hdistinct]
  · intro edits hchain hedits
    have hrow : Row source.byteLength 0 edits := by
      refine row_of_chain hchain (fun edit hmem => ?_) (fun _ _ => Nat.zero_le _)
      obtain ⟨hrange, -, hfinish⟩ := hedits edit hmem
      exact ⟨hrange, hfinish.le⟩
    obtain ⟨result, hspliced⟩ := hrow.exists_spliced [] source rfl
      fun edit hmem => (hedits edit hmem).2
    exact ⟨result, hspliced.applyAll_eq, hspliced.applyEach_eq [] rfl⟩

/-- Two insertions at one place, the removal of what stands behind it, and a change at the end. -/
def adjacentEdits : List Edit :=
  [⟨1, 1, ['x']⟩, ⟨1, 1, ['y']⟩, ⟨1, 3, []⟩, ⟨3, 4, ['z', 'z']⟩]

/-- A change behind two overlapping ones of which the second begins inside a character. -/
def unsortedEdits : List Edit :=
  [⟨3, 4, ['z']⟩, ⟨2, 3, ['y']⟩, ⟨0, 3, ['x']⟩]

theorem applyAll_any_order_adjacentEdits :
    (unsortedEdits.Perm unsortedEdits.reverse ∧ (unsortedEdits.map Edit.start).Nodup ∧
      applyAll ['a', 'é', 'b'] unsortedEdits = applyAll ['a', 'é', 'b'] unsortedEdits.reverse) ∧
    (adjacentEdits.IsChain fun a b => a.finish ≤ b.start) ∧
    (∀ edit ∈ adjacentEdits, edit.start ≤ edit.finish ∧
      Text.IsBoundary ['a', 'é', 'b'] edit.start ∧ Text.IsBoundary ['a', 'é', 'b'] edit.finish) ∧
    ∃ result, applyAll ['a', 'é', 'b'] adjacentEdits = .ok result ∧
      applyEach ['a', 'é', 'b'] adjacentEdits = .ok result := by
  have hperm : unsortedEdits.Perm unsortedEdits.reverse := (List.reverse_perm _).symm
  have hdistinct : (unsortedEdits.map Edit.start).Nodup := by decide
  have hchain : adjacentEdits.IsChain fun a b => a.finish ≤ b.start := by decide
  have hedits : ∀ edit ∈ adjacentEdits, edit.start ≤ edit.finish ∧
      Text.IsBoundary ['a', 'é', 'b'] edit.start ∧
      Text.IsBoundary ['a', 'é', 'b'] edit.finish := by decide
  obtain ⟨hany, heach⟩ := applyAll_any_order ['a', 'é', 'b']
  exact ⟨⟨hperm, hdistinct, hany _ _ hperm hdistinct⟩, hchain, hedits,
    heach adjacentEdits hchain hedits⟩

end StagedMocks.Edit
