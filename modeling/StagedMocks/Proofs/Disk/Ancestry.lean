import StagedMocks.Proofs.Disk.Route

/-!
The way up from a path. Each step takes the last component from it, so there are as many steps as
components. An absolute path leads up through all directories above its end, from the deepest on.
-/
namespace StagedMocks

namespace Path

/-- The path some levels above a path. -/
def climb? : Nat → Text → Option Text
  | 0, path => some path
  | level + 1, path => (parent? path).bind (climb? level)

/-- The number of components of a path below the root. A dot at the beginning is one. -/
def height (path : Text) : Nat :=
  (counting (backwards path)).length + if start path = ['.'] then 1 else 0

/-- The first path on the way up from a path at which something holds. -/
def IsNearest (path : Text) (p : Text → Prop) (above : Text) : Prop :=
  p above ∧ ∃ level, climb? level path = some above ∧
    ∀ lower < level, ∀ passed, climb? lower path = some passed → ¬ p passed

section Above

variable {start path : Text} {backs rest : List Text}

/-- Behind the first path above segments stand those above that path. -/
theorem above_rest (hrooted : Rooted start backs.reverse) (h : above start backs = path :: rest) :
    rest = above (Path.start path) (backwards path) := by
  induction backs with
  | nil =>
      rw [above] at h
      split at h
      · cases h
        rfl
      · cases h
  | cons segment backs ih =>
      rw [List.reverse_cons] at hrooted
      have hshorter := hrooted.of_prefix (List.prefix_append _ _)
      cases hidle : isIdle segment with
      | true =>
          rw [above_idle hidle] at h
          exact ih hshorter h
      | false =>
          rw [above_of_not_idle hidle] at h
          cases h
          obtain ⟨rfl, rfl, _⟩ | ⟨hne, _⟩ := hrooted.bare_cases hidle
          · rfl
          · have hback := (hshorter.of_prefix (List.reverse_prefix.mpr
              (List.dropWhile_suffix isIdle))).above_eq hne
            rw [hback, List.reverse_reverse, above_dropWhile]

theorem length_above (start : Text) (backs : List Text) :
    (above start backs).length =
      (counting backs).length + if start = ['.'] then 1 else 0 := by
  induction backs with
  | nil =>
      rw [above]
      split <;> rfl
  | cons segment backs ih =>
      cases hidle : isIdle segment with
      | true => rw [above_idle hidle, counting_of_idle hidle, ih]
      | false =>
          rw [above_of_not_idle hidle, counting_of_not_idle hidle, List.length_cons,
            List.length_cons, ih, Nat.add_right_comm]

end Above

section Ancestors

variable {path above : Text}

theorem ancestors_of_none (h : parent? path = none) : ancestors path = [path] := by
  rw [ancestors, List.head?_eq_none_iff.mp h]

theorem ancestors_of_some (h : parent? path = some above) :
    ancestors path = path :: ancestors above := by
  have hne : path ≠ [] := by
    rintro rfl
    cases h
  obtain ⟨rest, hrest⟩ := List.head?_eq_some_iff.mp h
  have hrooted := start_rooted hne
  rw [ancestors, hrest, ancestors, above_rest hrooted hrest]

theorem getElem?_ancestors (level : Nat) (path : Text) :
    (ancestors path)[level]? = climb? level path := by
  induction level generalizing path with
  | zero => rfl
  | succ level ih =>
      cases hparent : parent? path with
      | none => rw [ancestors_of_none hparent, climb?, hparent]; rfl
      | some above =>
          rw [ancestors_of_some hparent, climb?, hparent, List.getElem?_cons_succ, ih]
          rfl

/-- The way up ends where the components do. -/
theorem climb?_eq_none_iff {level : Nat} : climb? level path = none ↔ height path < level := by
  rw [← getElem?_ancestors, List.getElem?_eq_none_iff, ancestors, List.length_cons, length_above,
    height]
  exact Nat.succ_le_iff

theorem mem_ancestors_iff : above ∈ ancestors path ↔ ∃ level, climb? level path = some above := by
  simp only [← getElem?_ancestors, List.mem_iff_getElem?]

theorem find?_ancestors_iff {p : Text → Bool} :
    (ancestors path).find? p = some above ↔ IsNearest path (p · = true) above := by
  rw [List.find?_eq_some_iff_getElem, IsNearest]
  apply and_congr_right'
  constructor
  · rintro ⟨level, hlevel, habove, hlower⟩
    refine ⟨level, ?_, fun lower hlt passed hpassed => ?_⟩
    · rw [← getElem?_ancestors, List.getElem?_eq_getElem hlevel, habove]
    · rw [← getElem?_ancestors, List.getElem?_eq_getElem (hlt.trans hlevel)] at hpassed
      simpa [← Option.some.inj hpassed] using hlower lower hlt
  · rintro ⟨level, habove, hlower⟩
    rw [← getElem?_ancestors] at habove
    obtain ⟨hlevel, habove⟩ := List.getElem?_eq_some_iff.mp habove
    refine ⟨level, hlevel, habove, fun lower hlt => ?_⟩
    have hpassed := hlower lower hlt _ (by
      rw [← getElem?_ancestors, List.getElem?_eq_getElem (hlt.trans hlevel)])
    simpa using hpassed

end Ancestors

end Path

namespace Standpoint

theorem upward_concat (front : Location) (last : Text) :
    upward (front ++ [last]) = (front ++ [last]) :: upward front := by
  simp [upward, List.inits_append]

theorem mem_upward {location directory : Location} :
    directory ∈ upward location ↔ directory <+: location := by
  rw [upward, List.mem_reverse, List.mem_inits]

/-- Directories further up are shorter. -/
theorem pairwise_upward (location : Location) :
    (upward location).Pairwise fun lower upper => upper <+: lower ∧ upper ≠ lower := by
  induction location using List.reverseRecOn with
  | nil => exact List.pairwise_singleton _ _
  | append_singleton front last ih =>
      rw [upward_concat, List.pairwise_cons]
      refine ⟨fun upper hupper => ?_, ih⟩
      have hbegins := mem_upward.mp hupper
      refine ⟨hbegins.trans (List.prefix_append _ _), fun hsame => ?_⟩
      have hlength := hbegins.length_le
      rw [hsame, List.length_append, List.length_singleton] at hlength
      omega

end Standpoint

namespace Path

open Standpoint (upward)

section Absolute

variable {path : Text} {front backs : List Text}

theorem counting_dropWhile (backs : List Text) :
    counting (backs.dropWhile isIdle).reverse = counting backs.reverse := by
  induction backs with
  | nil => rfl
  | cons segment backs ih =>
      cases hidle : isIdle segment with
      | true =>
          rw [List.dropWhile_cons_of_pos hidle, ih, List.reverse_cons, counting_append,
            counting_of_idle hidle]
          exact (List.append_nil _).symm
      | false => rw [List.dropWhile_cons_of_neg (by simp [hidle])]

theorem counting_segments_rooted (h : Rooted ['/'] front) :
    counting (segments (['/'] ++ ofSegments front)) = counting front := by
  have hsplit : segments (['/'] ++ ofSegments front) = [] :: segments (ofSegments front) :=
    segments_slash [] _
  rw [hsplit, counting_of_idle rfl]
  cases front with
  | nil => rfl
  | cons first rest => rw [segments_ofSegments (List.cons_ne_nil _ _) h.plain]

/-- The paths above segments behind the root are absolute, and lead to the directories above. -/
theorem above_root (h : Rooted ['/'] backs.reverse) :
    counting backs.reverse :: (above ['/'] backs).map (fun path => counting (segments path)) =
        upward (counting backs.reverse) ∧
      ∀ path ∈ above ['/'] backs, isAbsolute path = true := by
  induction backs with
  | nil => exact ⟨rfl, fun _ hpath => nomatch hpath⟩
  | cons segment backs ih =>
      rw [List.reverse_cons, counting_append]
      rw [List.reverse_cons] at h
      have hshorter := h.of_prefix (List.prefix_append _ _)
      obtain ⟨hup, habsolute⟩ := ih hshorter
      cases hidle : isIdle segment with
      | true =>
          rw [above_idle hidle, counting_of_idle hidle]
          exact ⟨(List.append_nil (counting backs.reverse)).symm ▸ hup, habsolute⟩
      | false =>
          have htop := counting_segments_rooted
            (hshorter.of_prefix (List.reverse_prefix.mpr (List.dropWhile_suffix isIdle)))
          have hlast : counting [segment] = [segment] := counting_of_not_idle hidle []
          rw [above_of_not_idle hidle, hlast, Standpoint.upward_concat, ← hup, List.map_cons, htop,
            counting_dropWhile]
          exact ⟨rfl, List.forall_mem_cons.mpr ⟨rfl, habsolute⟩⟩

theorem start_of_isAbsolute (h : isAbsolute path = true) : Path.start path = ['/'] := by
  rw [isAbsolute, beq_iff_eq, List.head?_eq_some_iff] at h
  obtain ⟨rest, rfl⟩ := h
  rfl

theorem start_rooted_of_isAbsolute (h : isAbsolute path = true) :
    Rooted ['/'] (backwards path).reverse := by
  have hne : path ≠ [] := by
    rintro rfl
    cases h
  have hrooted := start_rooted hne
  rwa [start_of_isAbsolute h] at hrooted

theorem counting_backwards (h : isAbsolute path = true) :
    counting (backwards path).reverse = counting (segments path) := by
  have hspelled := eq_start_append path
  rw [start_of_isAbsolute h] at hspelled
  conv_rhs => rw [hspelled]
  exact (counting_segments_rooted (start_rooted_of_isAbsolute h)).symm

/-- An absolute path and those above it are absolute, and lead to all directories above its end. -/
theorem ancestors_absolute (h : isAbsolute path = true) :
    (ancestors path).map (fun above => counting (segments above)) =
        upward (counting (segments path)) ∧
      ∀ above ∈ ancestors path, isAbsolute above = true := by
  obtain ⟨hup, habsolute⟩ := above_root (start_rooted_of_isAbsolute h)
  rw [counting_backwards h] at hup
  rw [ancestors, start_of_isAbsolute h]
  exact ⟨hup, List.forall_mem_cons.mpr ⟨h, habsolute⟩⟩

theorem backwards_slash {name : Text} (h : isAbsolute path = true) (hplain : '/' ∉ name) :
    backwards (path ++ '/' :: name) = name :: backwards path := by
  rw [isAbsolute, beq_iff_eq, List.head?_eq_some_iff] at h
  obtain ⟨rest, rfl⟩ := h
  have hsplit := segments_slash rest name
  rw [segments_of_plain hplain] at hsplit
  rw [List.cons_append, backwards, backwards]
  exact (congrArg List.reverse hsplit).trans List.reverse_concat

/-- A name behind an absolute path that ends in another name is one step below it. -/
theorem parent?_slash {name last : Text} (h : isAbsolute path = true) (hname : isIdle name = false)
    (hplain : '/' ∉ name) (hlast : isIdle last = false) (hback : '/' ∉ last) :
    parent? (path ++ '/' :: last ++ '/' :: name) = some (path ++ '/' :: last) := by
  have hlonger : isAbsolute (path ++ '/' :: last) = true := by
    rw [isAbsolute, List.head?_append_of_ne_nil]
    · exact h
    · rintro rfl
      cases h
  have hlongest : isAbsolute (path ++ '/' :: last ++ '/' :: name) = true := by
    rw [isAbsolute, List.head?_append_of_ne_nil _ (by simp)]
    exact hlonger
  have hspelled := eq_start_append (path ++ '/' :: last)
  rw [start_of_isAbsolute hlonger, backwards_slash h hback] at hspelled
  rw [parent?, start_of_isAbsolute hlongest, backwards_slash hlonger hplain,
    backwards_slash h hback, above_of_not_idle hname,
    List.dropWhile_cons_of_neg (by simp [hlast]), ← hspelled]
  rfl

end Absolute

end Path

end StagedMocks
