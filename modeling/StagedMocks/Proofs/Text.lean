import StagedMocks.Text.Blank

/-!
Cuts, beginnings and ends of texts. A cut at the byte length of a beginning gives that
beginning back, so offsets that are sums of such lengths never miss a character
boundary. Where a part stands in a text is said by the library's prefix, suffix and
infix orders.
-/
namespace StagedMocks.Text

theorem byteLength_append (x y : Text) :
    byteLength (x ++ y) = byteLength x + byteLength y := by
  induction x with
  | nil => simp [byteLength]
  | cons c x ih => simp [byteLength, ih, Nat.add_assoc]

theorem byteLength_pos {x : Text} (h : x ≠ []) : 0 < byteLength x := by
  cases x with
  | nil => exact absurd rfl h
  | cons c x =>
      have hc := Char.utf8Size_pos c
      simp only [byteLength]
      omega

theorem byteLength_replicate (count : Nat) (c : Char) :
    byteLength (List.replicate count c) = count * c.utf8Size := by
  induction count with
  | zero => rw [Nat.zero_mul]; rfl
  | succ count ih =>
      rw [List.replicate_succ, byteLength, ih, Nat.succ_mul, Nat.add_comm]

theorem cutAt?_append (x y : Text) : cutAt? (byteLength x) (x ++ y) = some (x, y) := by
  induction x with
  | nil => simp [byteLength, cutAt?]
  | cons c x ih =>
      obtain ⟨n, hn⟩ : ∃ n, byteLength (c :: x) = n + 1 :=
        ⟨byteLength (c :: x) - 1, by have := byteLength_pos (List.cons_ne_nil c x); omega⟩
      have hsum : c.utf8Size + byteLength x = n + 1 := hn
      rw [hn, List.cons_append, cutAt?, if_pos (by omega),
        show n + 1 - c.utf8Size = byteLength x by omega, ih]
      rfl

theorem dropAt?_append (x y : Text) : dropAt? (byteLength x) (x ++ y) = some y := by
  induction x with
  | nil => simp [byteLength, dropAt?]
  | cons c x ih =>
      obtain ⟨n, hn⟩ : ∃ n, byteLength (c :: x) = n + 1 :=
        ⟨byteLength (c :: x) - 1, by have := byteLength_pos (List.cons_ne_nil c x); omega⟩
      have hsum : c.utf8Size + byteLength x = n + 1 := hn
      rw [hn, List.cons_append, dropAt?, if_pos (by omega),
        show n + 1 - c.utf8Size = byteLength x by omega, ih]

theorem cutAt?_eq_some_iff {n : Nat} {s x y : Text} :
    cutAt? n s = some (x, y) ↔ s = x ++ y ∧ byteLength x = n := by
  constructor
  · intro h
    induction s generalizing n x with
    | nil =>
        cases n with
        | zero =>
            cases h
            exact ⟨rfl, rfl⟩
        | succ n => cases h
    | cons c s ih =>
        cases n with
        | zero =>
            cases h
            exact ⟨rfl, rfl⟩
        | succ n =>
            rw [cutAt?] at h
            split at h
            · obtain ⟨⟨front, back⟩, hcut, hparts⟩ := Option.map_eq_some_iff.mp h
              cases hparts
              obtain ⟨rfl, hlength⟩ := ih hcut
              refine ⟨rfl, ?_⟩
              rw [byteLength, hlength]
              omega
            · cases h
  · rintro ⟨rfl, rfl⟩
    exact cutAt?_append x y

theorem slice?_append (x y z : Text) :
    slice? (byteLength x) (byteLength x + byteLength y) (x ++ (y ++ z)) = some y := by
  simp [slice?, dropAt?_append, cutAt?_append]

theorem after?_eq_some_iff {o s r : Text} : after? o s = some r ↔ s = o ++ r := by
  induction o generalizing s with
  | nil => simp [after?]
  | cons c o ih =>
      cases s with
      | nil => simp [after?]
      | cons d s =>
          by_cases h : c = d
          · subst h
            simp [after?, ih]
          · have h' : ¬ d = c := fun hd => h hd.symm
            simp [after?, h, h']

theorem after?_append (o r : Text) : after? o (o ++ r) = some r :=
  after?_eq_some_iff.mpr rfl

theorem after?_eq_none_iff {o s : Text} : after? o s = none ↔ ¬ o <+: s := by
  constructor
  · intro h hparts
    obtain ⟨r, rfl⟩ := hparts
    rw [after?_append] at h
    cases h
  · intro h
    cases ha : after? o s with
    | none => rfl
    | some r => exact absurd ⟨r, (after?_eq_some_iff.mp ha).symm⟩ h

theorem takeWhile_run {p : Char → Bool} {x y : Text} (hx : ∀ c ∈ x, p c = true)
    (hy : ∀ c ∈ y.head?, p c = false) : (x ++ y).takeWhile p = x := by
  rw [List.takeWhile_append_of_pos hx]
  cases y with
  | nil => simp
  | cons c y => simp [hy c rfl]

theorem dropWhile_run {p : Char → Bool} {x y : Text} (hx : ∀ c ∈ x, p c = true)
    (hy : ∀ c ∈ y.head?, p c = false) : (x ++ y).dropWhile p = y := by
  rw [List.dropWhile_append_of_pos hx]
  cases y with
  | nil => rfl
  | cons c y => simp [hy c rfl]

/-- What holds of every character of a fixed text can be evaluated. -/
theorem forall_mem_of_all {p : Char → Prop} [DecidablePred p] {s : Text}
    (h : s.all (fun c => decide (p c)) = true) : ∀ c ∈ s, p c := by
  intro c hc
  exact of_decide_eq_true (List.all_eq_true.mp h c hc)

theorem mem_ends {e s : Text} : e ∈ ends s ↔ e <:+ s := by
  induction s with
  | nil => simp [ends]
  | cons c s ih => simp [ends, ih, List.suffix_cons_iff]

theorem occursIn_iff {part s : Text} : occursIn part s = true ↔ part <:+: s := by
  simp only [occursIn, List.any_eq_true, mem_ends, List.isPrefixOf_iff_prefix,
    List.infix_iff_prefix_suffix]
  exact ⟨fun ⟨e, hs, hp⟩ => ⟨e, hp, hs⟩, fun ⟨e, hp, hs⟩ => ⟨e, hs, hp⟩⟩

theorem words_append_blank {c : Char} (h : isBlank c = true) (x y : Text) :
    words (x ++ c :: y) = words x ++ words y := by
  rw [words, List.splitOnP_append_cons x y h, List.filter_append]
  rfl

theorem words_blanks {blanks : Text} (h : ∀ c ∈ blanks, isBlank c = true) (s : Text) :
    words (blanks ++ s) = words s := by
  induction blanks with
  | nil => rfl
  | cons c blanks ih =>
      rw [List.cons_append, ← List.nil_append (c :: _),
        words_append_blank (h c List.mem_cons_self)]
      exact ih fun d hd => h d (List.mem_cons_of_mem c hd)

theorem words_append_of_head {s : Text} (h : ∀ c ∈ s.head?, isBlank c = true) (x : Text) :
    words (x ++ s) = words x ++ words s := by
  cases s with
  | nil =>
      rw [List.append_nil]
      exact (List.append_nil _).symm
  | cons c s =>
      have hc := h c rfl
      rw [words_append_blank hc, ← List.nil_append (c :: s), words_append_blank hc]
      rfl

/-- Of two ways to part a text, the first cuts no later than the second or strictly later. -/
theorem append_eq_append_cases {x y z w : Text} (h : x ++ y = z ++ w) :
    (∃ t, z = x ++ t ∧ y = t ++ w) ∨ ∃ t, t ≠ [] ∧ x = z ++ t ∧ w = t ++ y := by
  obtain hle | ⟨t, hx, hw⟩ := List.append_eq_append_iff.mp h
  · exact .inl hle
  · cases t with
    | nil => exact .inl ⟨[], by simp [hx], by simp [hw]⟩
    | cons c t => exact .inr ⟨c :: t, List.cons_ne_nil c t, hx, hw⟩

theorem append_eq_append_of_byteLength_le {x y z w : Text} (h : x ++ y = z ++ w)
    (hle : byteLength x ≤ byteLength z) : ∃ t, z = x ++ t ∧ y = t ++ w := by
  obtain hparts | ⟨t, hne, rfl, _⟩ := append_eq_append_cases h
  · exact hparts
  · have hpos := byteLength_pos hne
    rw [byteLength_append] at hle
    omega

/-- A byte offset at which a character of the text begins or the text ends. -/
def IsBoundary (s : Text) (n : Nat) : Prop :=
  ∃ x y, s = x ++ y ∧ byteLength x = n

theorem isBoundary_iff {s : Text} {n : Nat} : IsBoundary s n ↔ (cutAt? n s).isSome = true := by
  constructor
  · rintro ⟨x, y, rfl, rfl⟩
    rw [cutAt?_append]
    rfl
  · intro h
    obtain ⟨⟨x, y⟩, hcut⟩ := Option.isSome_iff_exists.mp h
    exact ⟨x, y, cutAt?_eq_some_iff.mp hcut⟩

instance (s : Text) (n : Nat) : Decidable (IsBoundary s n) :=
  decidable_of_iff _ isBoundary_iff.symm

theorem IsBoundary.le {s : Text} {n : Nat} (h : IsBoundary s n) : n ≤ byteLength s := by
  obtain ⟨x, y, rfl, rfl⟩ := h
  rw [byteLength_append]
  exact Nat.le_add_right _ _

theorem suffix_append_iff {e x y : Text} :
    e <:+ x ++ y ↔ e <:+ y ∨ ∃ e', e' ≠ [] ∧ e' <:+ x ∧ e = e' ++ y := by
  constructor
  · intro ⟨t, ht⟩
    obtain ⟨a, rfl, rfl⟩ | ⟨b, hb, rfl, rfl⟩ := append_eq_append_cases ht.symm
    · exact .inl ⟨a, rfl⟩
    · exact .inr ⟨b, hb, ⟨t, rfl⟩, rfl⟩
  · intro hcases
    obtain h | ⟨e', -, ⟨t, rfl⟩, rfl⟩ := hcases
    · exact List.suffix_append_of_suffix h
    · exact ⟨t, by simp⟩

theorem prefix_append_iff {o x y : Text} :
    o <+: x ++ y ↔ o <+: x ∨ ∃ w, w ≠ [] ∧ w <+: y ∧ o = x ++ w := by
  constructor
  · intro ⟨t, ht⟩
    obtain ⟨a, rfl, rfl⟩ | ⟨b, hb, rfl, rfl⟩ := append_eq_append_cases ht
    · exact .inl ⟨a, rfl⟩
    · exact .inr ⟨b, hb, ⟨t, rfl⟩, rfl⟩
  · intro hcases
    obtain h | ⟨w, -, ⟨t, rfl⟩, rfl⟩ := hcases
    · exact List.prefix_append_of_prefix h
    · exact ⟨t, by simp⟩

theorem last_mem_of_append_eq {c : Char} {x y w : Text} (h : y ++ [c] = x ++ w) (hw : w ≠ []) :
    c ∈ w := by
  obtain ⟨a, -, hc⟩ | ⟨b, -, rfl⟩ := List.append_eq_append_iff.mp h
  · obtain ⟨-, rfl⟩ | ⟨-, rfl⟩ := List.singleton_eq_append_iff.mp hc
    · exact List.mem_singleton_self c
    · exact absurd rfl hw
  · simp

end StagedMocks.Text
