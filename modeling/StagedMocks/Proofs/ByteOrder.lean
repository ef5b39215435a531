import Mathlib.Tactic.SplitIfs
import StagedMocks.Expansion

/-!
The order of sorted paths. Texts are compared by code points, which is the order of their UTF-8
bytes: of two characters the smaller has the smaller bytes, and none begins with the bytes of
another.
-/
namespace StagedMocks

namespace Text

/-- The bytes of a text in UTF-8. -/
def bytes (s : Text) : List UInt8 :=
  (String.ofList s).toUTF8.data.toList

/-- The strict order of texts by their UTF-8 bytes. -/
def Precedes (s t : Text) : Prop :=
  List.Lex (· < ·) s.bytes t.bytes

theorem bytes_cons (c : Char) (s : Text) : bytes (c :: s) = String.utf8EncodeChar c ++ bytes s := by
  have hencoded : ∀ s : Text,
      (String.ofList s).toUTF8 = (s.flatMap String.utf8EncodeChar).toByteArray := fun _ => rfl
  rw [bytes, bytes, hencoded, hencoded, List.data_toByteArray, List.data_toByteArray,
    List.flatMap_cons]

theorem utf8EncodeChar_lt {c d : Char} (h : c < d) (x y : List UInt8) :
    List.Lex (· < ·) (String.utf8EncodeChar c ++ x) (String.utf8EncodeChar d ++ y) := by
  have hnat : c.val.toNat < d.val.toNat := h
  have hmax : d.val.toNat < 1114112 := by
    have hvalid := d.valid
    simp only [UInt32.isValidChar, Nat.isValidChar] at hvalid
    omega
  simp only [String.utf8EncodeChar]
  generalize c.val.toNat = n at hnat ⊢
  generalize d.val.toNat = m at hnat hmax ⊢
  have hbyte : ∀ a b : Nat, a < 256 → b < 256 → (UInt8.ofNat a < UInt8.ofNat b ↔ a < b) := by
    intro a b ha hb
    rw [UInt8.lt_iff_toNat_lt, UInt8.toNat_ofNat', UInt8.toNat_ofNat', Nat.mod_eq_of_lt ha,
      Nat.mod_eq_of_lt hb]
  have hsame : ∀ a b : Nat, a < 256 → b < 256 → (UInt8.ofNat a = UInt8.ofNat b ↔ a = b) := by
    intro a b ha hb
    rw [← UInt8.toNat_inj, UInt8.toNat_ofNat', UInt8.toNat_ofNat', Nat.mod_eq_of_lt ha,
      Nat.mod_eq_of_lt hb]
  -- Digits of one base, so that each comparison is of the quotients first and then of the rests.
  have hdigit : ∀ k : Nat, k / 4096 = k / 64 / 64 ∧ k / 262144 = k / 64 / 64 / 64 := by
    intro k
    rw [Nat.div_div_eq_div_mul, Nat.div_div_eq_div_mul]
    exact ⟨rfl, rfl⟩
  simp only [fun k => (hdigit k).1, fun k => (hdigit k).2]
  split_ifs <;>
    simp (disch := omega) only [List.cons_append, List.nil_append, List.cons_lex_cons_iff, hbyte,
      hsame] <;>
    omega

theorem precedes_of_lex {s t : Text} (h : List.Lex (· < ·) s t) : Precedes s t := by
  rw [Precedes]
  induction h with
  | @nil c s =>
      have hne := @String.utf8EncodeChar_ne_nil c
      obtain ⟨byte, rest, hbytes⟩ := List.exists_cons_of_ne_nil hne
      rw [bytes_cons, hbytes]
      exact .nil
  | @rel c s d t hlt =>
      rw [bytes_cons, bytes_cons]
      exact utf8EncodeChar_lt hlt (bytes s) (bytes t)
  | cons _ ih =>
      rw [bytes_cons, bytes_cons]
      exact List.append_left_lt ih

theorem le_iff {s t : Text} : le s t = true ↔ List.le s t :=
  decide_eq_true_iff

end Text

namespace Expansion

theorem mem_sorted {path : Text} {paths : List Text} : path ∈ sorted paths ↔ path ∈ paths :=
  List.mem_mergeSort

/-- Different paths are sorted strictly by their bytes. -/
theorem pairwise_sorted {paths : List Text} (h : paths.Nodup) :
    (sorted paths).Pairwise Text.Precedes := by
  have hordered : (sorted paths).Pairwise fun a b => Text.le a b = true := by
    refine List.pairwise_mergeSort ?_ ?_ paths
    · intro a b c hab hbc
      exact Text.le_iff.mpr (List.le_trans (Text.le_iff.mp hab) (Text.le_iff.mp hbc))
    · intro a b
      rw [Bool.or_eq_true, Text.le_iff, Text.le_iff]
      exact List.le_total a b
  have hdifferent : (sorted paths).Nodup := (List.mergeSort_perm paths Text.le).nodup_iff.mpr h
  refine (hordered.and hdifferent).imp ?_
  rintro a b ⟨hle, hne⟩
  refine Text.precedes_of_lex (Decidable.byContradiction fun hlt => hne ?_)
  exact List.le_antisymm (Text.le_iff.mp hle) hlt

end Expansion

end StagedMocks
