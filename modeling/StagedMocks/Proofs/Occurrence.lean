import StagedMocks.Proofs.Text

/-!
Occurrences of a part in a text that is put together from others. A part stands in one of
two texts or lies across the cut between them, and what its characters rule out at the cut
leaves only the texts themselves.
-/
namespace StagedMocks.Text

/-- A part lies across the cut between two texts. -/
def Across (part x y : Text) : Prop :=
  ∃ v w, v ≠ [] ∧ w ≠ [] ∧ part = v ++ w ∧ v <:+ x ∧ w <+: y

theorem infix_append_iff {part x y : Text} :
    part <:+: x ++ y ↔ part <:+: x ∨ part <:+: y ∨ Across part x y := by
  constructor
  · intro h
    obtain ⟨e, hp, hs⟩ := List.infix_iff_prefix_suffix.mp h
    obtain hs | ⟨v, hv, hvx, rfl⟩ := suffix_append_iff.mp hs
    · exact .inr (.inl (hp.isInfix.trans hs.isInfix))
    · obtain hp | ⟨w, hw, hwy, rfl⟩ := prefix_append_iff.mp hp
      · exact .inl (hp.isInfix.trans hvx.isInfix)
      · exact .inr (.inr ⟨v, w, hv, hw, rfl, hvx, hwy⟩)
  · intro h
    obtain h | h | ⟨v, w, _, _, rfl, ⟨x', rfl⟩, ⟨y', rfl⟩⟩ := h
    · exact List.infix_append_of_infix_left h
    · exact List.infix_append_of_infix_right h
    · exact ⟨x', y', by simp only [List.append_assoc]⟩

theorem head?_of_begins {w s : Text} (hw : w ≠ []) (h : w <+: s) : s.head? = w.head? := by
  obtain ⟨t, rfl⟩ := h
  cases w with
  | nil => exact absurd rfl hw
  | cons c w => rfl

theorem head_mem_of_begins {c : Char} {w s : Text} (hw : w ≠ []) (h : w <+: c :: s) : c ∈ w :=
  List.mem_of_head? (head?_of_begins hw h).symm

theorem infix_append_cons_iff {c : Char} {part x y : Text} (h : c ∉ part) :
    part <:+: x ++ c :: y ↔ part <:+: x ∨ part <:+: y := by
  rw [infix_append_iff, List.infix_cons_iff]
  constructor
  · intro hin
    obtain hin | (hp | hin) | ⟨v, w, _, hw, rfl, _, hp⟩ := hin
    · exact .inl hin
    · by_cases hnil : part = []
      · exact .inl (hnil ▸ List.nil_infix)
      · exact absurd (head_mem_of_begins hnil hp) h
    · exact .inr hin
    · exact absurd (List.mem_append_right v (head_mem_of_begins hw hp)) h
  · intro hin
    obtain hin | hin := hin
    · exact .inl hin
    · exact .inr (.inl (.inr hin))

/-- A part does not begin where its first character does not stand. -/
theorem infix_of_head_not_mem {c : Char} {part x y : Text} (hpart : part.head? = some c)
    (hx : c ∉ x) (h : part <:+: x ++ y) : part <:+: y := by
  induction x with
  | nil => exact h
  | cons d x ih =>
      rw [List.mem_cons, not_or] at hx
      obtain hp | hin := List.infix_cons_iff.mp h
      · have hne : part ≠ [] := by
          intro hnil
          rw [hnil] at hpart
          cases hpart
        have hd := head?_of_begins hne hp
        rw [hpart] at hd
        exact absurd (Option.some.inj hd).symm hx.1
      · exact ih hx.2 hin

/-- A part whose only `c` is its last character ends where `c` stands or before. -/
theorem prefix_append_cons {c : Char} {part x y : Text} (h : c ∉ part)
    (hp : part ++ [c] <+: x ++ c :: y) : part ++ [c] <+: x ∨ part = x := by
  obtain hp | ⟨w, hw, ⟨z, hz⟩, heq⟩ := prefix_append_iff.mp hp
  · exact .inl hp
  · refine .inr ?_
    cases w with
    | nil => exact absurd rfl hw
    | cons d w =>
        rw [List.cons_append, List.cons.injEq] at hz
        obtain ⟨rfl, _⟩ := hz
        obtain ⟨t, rfl, ht⟩ | ⟨t, hne, rfl, ht⟩ := append_eq_append_cases heq
        · obtain ⟨rfl, _⟩ | ⟨_, hnil⟩ := List.singleton_eq_append_iff.mp ht
          · simp
          · cases hnil
        · cases t with
          | nil => exact absurd rfl hne
          | cons d' t =>
              rw [List.cons_append, List.cons.injEq] at ht
              exact absurd (by simp [ht.1]) h

/-- No end of `part`, but for `part` itself, begins where `next` stands. -/
def Apart (part next : Text) : Prop :=
  ∀ w ∈ (ends part).tail, w ≠ [] → ¬ w <+: next ∧ ¬ next <+: w

instance (part next : Text) : Decidable (Apart part next) :=
  inferInstanceAs (Decidable (∀ w ∈ (ends part).tail, w ≠ [] → ¬ w <+: next ∧ ¬ next <+: w))

theorem Apart.prefix_left {part next x rest : Text} (h : Apart part next) (hx : x ≠ [])
    (hp : part <+: x ++ (next ++ rest)) : part <+: x := by
  obtain hp | ⟨w, hw, hnext, rfl⟩ := prefix_append_iff.mp hp
  · exact hp
  · have hmem : w ∈ (ends (x ++ w)).tail := by
      cases x with
      | nil => exact absurd rfl hx
      | cons c x =>
          rw [List.cons_append, ends, List.tail_cons, mem_ends]
          exact List.suffix_append x w
    obtain ⟨hwn, hnw⟩ := h w hmem hw
    obtain hcmp | hcmp := List.prefix_or_prefix_of_prefix hnext (List.prefix_append next rest)
    · exact absurd hcmp hwn
    · exact absurd hcmp hnw

theorem Apart.not_across {part next x rest : Text} (h : Apart part next) :
    ¬ Across part x (next ++ rest) := by
  intro ⟨v, w, hv, hw, hpart, _, hnext⟩
  have hp : part <+: v ++ (next ++ rest) := by
    rw [hpart, List.prefix_append_right_inj]
    exact hnext
  have hlen := (h.prefix_left hv hp).length_le
  have hpos := List.length_pos_iff.mpr hw
  rw [hpart, List.length_append] at hlen
  omega

theorem occurrence_append_cases {front part x y : Text} (h : front ++ part <+: x ++ y) :
    front ++ part <+: x ∨ (∃ f, front = x ++ f ∧ f ++ part <+: y) ∨
      ∃ v w, v ≠ [] ∧ w ≠ [] ∧ part = v ++ w ∧ front ++ v = x ∧ w <+: y := by
  obtain h | ⟨w, hw, hwy, heq⟩ := prefix_append_iff.mp h
  · exact .inl h
  · refine .inr ?_
    obtain ⟨v, hv, hpart⟩ | ⟨f, _, hf, hwf⟩ := append_eq_append_cases heq
    · cases v with
      | nil =>
          rw [List.append_nil] at hv
          rw [List.nil_append] at hpart
          exact .inl ⟨[], by rw [hv, List.append_nil], by rw [List.nil_append, hpart]; exact hwy⟩
      | cons c v => exact .inr ⟨c :: v, w, List.cons_ne_nil c v, hw, hpart, hv.symm, hwy⟩
    · exact .inl ⟨f, hf, by rw [← hwf]; exact hwy⟩

/-- A part stands at exactly one place of a text. -/
def Once (part s : Text) : Prop :=
  ∃ front, front ++ part <+: s ∧ ∀ other, other ++ part <+: s → other = front

theorem Once.occurs {part s : Text} (h : Once part s) : part <:+: s := by
  obtain ⟨front, ⟨rest, hrest⟩, _⟩ := h
  exact ⟨front, rest, hrest⟩

/-- A part that stands once in the first of two texts stands once in both, unless another one
lies across the cut. -/
theorem Once.append_right {part x y : Text} (h : Once part x) (hy : ¬ part <:+: y) :
    Once part (x ++ y) ↔ ¬ Across part x y := by
  obtain ⟨front, hfront, hunique⟩ := h
  constructor
  · intro ⟨only, _, honly⟩ ⟨v, w, _, hw, hpart, ⟨z, hz⟩, ⟨r, hr⟩⟩
    have hsame : z = front := by
      rw [honly z ⟨r, by rw [← hz, ← hr, hpart]; simp only [List.append_assoc]⟩,
        honly front (hfront.trans (List.prefix_append _ _))]
    rw [← hz, hsame, List.prefix_append_right_inj, hpart] at hfront
    have hlen := hfront.length_le
    have hpos := List.length_pos_iff.mpr hw
    rw [List.length_append] at hlen
    omega
  · intro hno
    refine ⟨front, hfront.trans (List.prefix_append _ _), ?_⟩
    intro other hother
    obtain hin | ⟨f, _, hin⟩ | ⟨v, w, hv, hw, hpart, hx, hwy⟩ := occurrence_append_cases hother
    · exact hunique other hin
    · exact absurd ((List.suffix_append f part).isInfix.trans hin.isInfix) hy
    · exact absurd ⟨v, w, hv, hw, hpart, ⟨other, hx⟩, hwy⟩ hno

theorem Once.append_left {part x y : Text} (h : Once part y) (hx : ¬ part <:+: x) :
    Once part (x ++ y) ↔ ¬ Across part x y := by
  obtain ⟨front, hfront, hunique⟩ := h
  have hshift : (x ++ front) ++ part <+: x ++ y := by
    rw [List.append_assoc, List.prefix_append_right_inj]
    exact hfront
  constructor
  · intro ⟨only, _, honly⟩ ⟨v, w, hv, _, hpart, ⟨z, hz⟩, ⟨r, hr⟩⟩
    have hsame : z = x ++ front := by
      rw [honly z ⟨r, by rw [← hz, ← hr, hpart]; simp only [List.append_assoc]⟩,
        honly _ hshift]
    have hlen := congrArg List.length (hz.symm.trans (by rw [hsame]))
    have hpos := List.length_pos_iff.mpr hv
    simp only [List.length_append] at hlen
    omega
  · intro hno
    refine ⟨x ++ front, hshift, ?_⟩
    intro other hother
    obtain hin | ⟨f, rfl, hin⟩ | ⟨v, w, hv, hw, hpart, hxv, hwy⟩ :=
      occurrence_append_cases hother
    · exact absurd ((List.suffix_append other part).isInfix.trans hin.isInfix) hx
    · rw [hunique f hin]
    · exact absurd ⟨v, w, hv, hw, hpart, ⟨other, hxv⟩, hwy⟩ hno

end StagedMocks.Text
