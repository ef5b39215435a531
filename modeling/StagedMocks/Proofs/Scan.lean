import StagedMocks.Scan
import StagedMocks.Proofs.Text

/-!
Leftmost scanning as a relation. A cover of a text lists its finds, each with the
gap before it, and the tail behind the last one; nothing can be read at a position
of a gap or of the tail. Every text has a cover, and the finds of a scan are those
of any cover, at the offsets that the lengths of gaps and finds add up to.
-/
namespace StagedMocks.Scan

variable {α : Type} {read? : Text → Option α} {text : α → Text}

/-- The contract of a reader: what it reads is a non-empty beginning of what it looks at. -/
structure Lawful (read? : Text → Option α) (text : α → Text) : Prop where
  text_ne_nil : ∀ {s a}, read? s = some a → text a ≠ []
  text_prefix : ∀ {s a}, read? s = some a → text a <+: s

/-- Nothing is read at a position of `front` when `rest` stands behind it. -/
def Silent (read? : Text → Option α) (front rest : Text) : Prop :=
  ∀ e, e ≠ [] → e <:+ front → read? (e ++ rest) = none

theorem silent_nil (rest : Text) : Silent read? [] rest := by
  intro e he hs
  exact absurd (List.suffix_nil.mp hs) he

theorem silent_cons_iff {c : Char} {front rest : Text} :
    Silent read? (c :: front) rest ↔
      read? (c :: (front ++ rest)) = none ∧ Silent read? front rest := by
  constructor
  · intro h
    refine ⟨h (c :: front) (List.cons_ne_nil c front) (List.suffix_refl _), ?_⟩
    intro e he hs
    exact h e he (List.suffix_cons_iff.mpr (.inr hs))
  · intro ⟨h0, h⟩ e he hs
    obtain rfl | hs := List.suffix_cons_iff.mp hs
    · exact h0
    · exact h e he hs

theorem silent_append_iff {x y rest : Text} :
    Silent read? (x ++ y) rest ↔ Silent read? x (y ++ rest) ∧ Silent read? y rest := by
  induction x with
  | nil => simp [silent_nil]
  | cons c x ih =>
      rw [List.cons_append, silent_cons_iff, silent_cons_iff, ih, List.append_assoc, and_assoc]

theorem first?_eq_none_iff {s : Text} : first? read? text s = none ↔ Silent read? s [] := by
  induction s with
  | nil => simp [first?, silent_nil]
  | cons c s ih =>
      rw [silent_cons_iff, List.append_nil, ← ih, first?]
      cases h : read? (c :: s) <;> simp

theorem first?_eq_some_iff (lawful : Lawful read? text) {s before behind : Text} {a : α} :
    first? read? text s = some (before, a, behind) ↔
      s = before ++ (text a ++ behind) ∧ Silent read? before (text a ++ behind) ∧
        read? (text a ++ behind) = some a := by
  induction s generalizing before with
  | nil =>
      constructor
      · intro h
        cases h
      · intro ⟨hs, _, hr⟩
        have hn : text a = [] := by simp_all
        exact absurd hn (lawful.text_ne_nil hr)
  | cons c s ih =>
      rw [first?]
      cases hr : read? (c :: s) with
      | some b =>
          obtain ⟨rest, hrest⟩ := lawful.text_prefix hr
          simp only [← hrest, List.drop_left, Option.some.injEq, Prod.mk.injEq]
          constructor
          · intro hparts
            obtain ⟨rfl, rfl, rfl⟩ := hparts
            exact ⟨rfl, silent_nil _, by rw [hrest, hr]⟩
          · intro ⟨hs, hsilent, ha⟩
            rw [hrest] at hs
            cases before with
            | nil =>
                rw [List.nil_append] at hs
                rw [← hs, hr] at ha
                cases ha
                rw [← hrest] at hs
                exact ⟨rfl, rfl, List.append_cancel_left hs⟩
            | cons d before =>
                have hnone := (silent_cons_iff.mp hsilent).1
                rw [← List.cons_append, ← hs, hr] at hnone
                cases hnone
      | none =>
          simp only [Option.map_eq_some_iff]
          constructor
          · intro ⟨⟨x, b, y⟩, hf, heq⟩
            simp only [Prod.mk.injEq] at heq
            obtain ⟨rfl, rfl, rfl⟩ := heq
            obtain ⟨rfl, hsilent, ha⟩ := ih.mp hf
            exact ⟨rfl, silent_cons_iff.mpr ⟨hr, hsilent⟩, ha⟩
          · intro ⟨hs, hsilent, ha⟩
            cases before with
            | nil =>
                rw [List.nil_append] at hs
                rw [← hs, hr] at ha
                cases ha
            | cons d before =>
                simp only [List.cons_append, List.cons.injEq] at hs
                obtain ⟨rfl, hs⟩ := hs
                exact ⟨(before, a, behind),
                  ih.mpr ⟨hs, (silent_cons_iff.mp hsilent).2, ha⟩, rfl⟩

theorem replaceFirst_eq {new s before behind : Text} {a : α}
    (h : first? read? text s = some (before, a, behind)) :
    replaceFirst read? text new s = before ++ (new ++ behind) := by
  rw [replaceFirst, h]
  exact List.append_assoc _ _ _

/-- What is silent at the beginning of a text stays when the first find is exchanged. -/
theorem replaceFirst_silent (lawful : Lawful read? text) {front rest : Text}
    (h : Silent read? front rest) (new : Text) :
    ∃ behind, replaceFirst read? text new (front ++ rest) = front ++ behind := by
  rw [replaceFirst]
  cases hf : first? read? text (front ++ rest) with
  | none => exact ⟨rest, rfl⟩
  | some found =>
      obtain ⟨before, a, behind⟩ := found
      obtain ⟨hsplit, _, hread⟩ := (first?_eq_some_iff lawful).mp hf
      obtain ⟨t, rfl, _⟩ | ⟨t, hne, rfl, ht⟩ := Text.append_eq_append_cases hsplit
      · exact ⟨t ++ new ++ behind, by simp only [List.append_assoc]⟩
      · have hnone := h t hne (List.suffix_append _ _)
        rw [← ht, hread] at hnone
        cases hnone

/-- A text as gaps, finds and a tail. -/
inductive Cover (read? : Text → Option α) (text : α → Text) :
    Text → List (Text × α) → Text → Prop where
  | done {tail : Text} : Silent read? tail [] → Cover read? text tail [] tail
  | next {gap rest tail : Text} {a : α} {finds : List (Text × α)} :
      Silent read? gap (text a ++ rest) → read? (text a ++ rest) = some a →
      Cover read? text rest finds tail →
      Cover read? text (gap ++ (text a ++ rest)) ((gap, a) :: finds) tail

/-- The text that has `spell a` in the place of each find `a`. -/
def respell (spell : α → Text) (finds : List (Text × α)) (tail : Text) : Text :=
  finds.flatMap (fun find => find.1 ++ spell find.2) ++ tail

theorem respell_cons (spell : α → Text) (gap : Text) (a : α) (finds : List (Text × α))
    (tail : Text) :
    respell spell ((gap, a) :: finds) tail = gap ++ (spell a ++ respell spell finds tail) := by
  simp [respell]

theorem respell_append (spell : α → Text) (first second : List (Text × α)) (tail : Text) :
    respell spell (first ++ second) tail = respell spell first [] ++ respell spell second tail := by
  simp [respell]

/-- The finds of a cover whose text starts at byte `offset`. -/
def located (text : α → Text) : Nat → List (Text × α) → List (Located α)
  | _, [] => []
  | offset, (gap, a) :: finds =>
      ⟨offset + gap.byteLength, a⟩ ::
        located text (offset + gap.byteLength + (text a).byteLength) finds

theorem located_values (offset : Nat) (finds : List (Text × α)) :
    (located text offset finds).map Located.value = finds.map Prod.snd := by
  induction finds generalizing offset with
  | nil => rfl
  | cons find finds ih => simp [located, ih]

theorem exists_cover (lawful : Lawful read? text) (s : Text) :
    ∃ finds tail, Cover read? text s finds tail := by
  cases hf : first? read? text s with
  | none => exact ⟨[], s, .done (first?_eq_none_iff.mp hf)⟩
  | some found =>
      obtain ⟨before, a, behind⟩ := found
      obtain ⟨hs, hsilent, hr⟩ := (first?_eq_some_iff lawful).mp hf
      have hshort : behind.length < s.length := by
        have := List.length_pos_iff.mpr (lawful.text_ne_nil hr)
        simp only [hs, List.length_append]
        omega
      obtain ⟨finds, tail, hc⟩ := exists_cover lawful behind
      exact ⟨(before, a) :: finds, tail, hs ▸ .next hsilent hr hc⟩
termination_by s.length

theorem Cover.respell_eq {s tail : Text} {finds : List (Text × α)}
    (cover : Cover read? text s finds tail) : respell text finds tail = s := by
  induction cover with
  | done _ => rfl
  | next _ _ _ ih => rw [respell_cons, ih]

/-- Spelling the finds anew keeps the text exactly if it keeps every find, provided that nothing
behind a find can make up for another spelling of it. -/
theorem Cover.respell_eq_iff {s tail : Text} {finds : List (Text × α)} {spell : α → Text}
    (cover : Cover read? text s finds tail)
    (h : ∀ find ∈ finds, ∀ rest rest',
      spell find.2 ++ rest' = text find.2 ++ rest → spell find.2 = text find.2) :
    respell spell finds tail = s ↔ ∀ find ∈ finds, spell find.2 = text find.2 := by
  induction cover with
  | done _ => exact ⟨fun _ find hfind => absurd hfind List.not_mem_nil, fun _ => rfl⟩
  | @next gap rest tail a finds _ _ _ ih =>
      obtain ⟨hfirst, hlater⟩ := List.forall_mem_cons.mp h
      rw [respell_cons, List.forall_mem_cons, ← ih hlater]
      constructor
      · intro hsame
        have hrest := List.append_cancel_left hsame
        have hspell := hfirst _ _ hrest
        rw [hspell] at hrest
        exact ⟨hspell, List.append_cancel_left hrest⟩
      · rintro ⟨hspell, hrest⟩
        rw [hrest, hspell]

/-- What is passed over inside a find leaves no piece. -/
theorem pieces_skip (x rest : Text) :
    pieces read? text x.length (x ++ rest) = pieces read? text 0 rest := by
  induction x with
  | nil => rfl
  | cons c x ih => simpa [pieces] using ih

theorem pieces_silent {front rest : Text} (h : Silent read? front rest) :
    pieces read? text 0 (front ++ rest) = front.map .plain ++ pieces read? text 0 rest := by
  induction front with
  | nil => rfl
  | cons c front ih =>
      obtain ⟨h0, h⟩ := silent_cons_iff.mp h
      simp [pieces, h0, ih h]

theorem pieces_read {rest : Text} {a : α} (hne : text a ≠ [])
    (hr : read? (text a ++ rest) = some a) :
    pieces read? text 0 (text a ++ rest) = .found a :: pieces read? text 0 rest := by
  obtain ⟨c, x, hx⟩ := List.exists_cons_of_ne_nil hne
  rw [hx, List.cons_append] at hr
  rw [hx, List.cons_append, pieces, hr]
  simp only [hx, List.length_cons, Nat.add_one_sub_one]
  rw [pieces_skip]

theorem locate_plain (offset : Nat) (front : Text) (rest : List (Piece α)) :
    locate text offset (front.map .plain ++ rest) =
      locate text (offset + front.byteLength) rest := by
  induction front generalizing offset with
  | nil => rfl
  | cons c front ih => simp [locate, ih, Text.byteLength, Nat.add_assoc]

theorem Cover.locate_eq (lawful : Lawful read? text) {s tail : Text} {finds : List (Text × α)}
    (cover : Cover read? text s finds tail) (offset : Nat) :
    locate text offset (pieces read? text 0 s) = located text offset finds := by
  induction cover generalizing offset with
  | @done tail h =>
      rw [← List.append_nil tail, pieces_silent h, locate_plain]
      rfl
  | next hsilent hr _ ih =>
      rw [pieces_silent hsilent, locate_plain, pieces_read (lawful.text_ne_nil hr) hr, locate, ih]
      rfl

/-- A scan finds exactly what a cover lists. -/
theorem Cover.all_eq (lawful : Lawful read? text) {s tail : Text} {finds : List (Text × α)}
    (cover : Cover read? text s finds tail) : all read? text s = located text 0 finds :=
  cover.locate_eq lawful 0

theorem all_eq_nil_iff (lawful : Lawful read? text) {s : Text} :
    all read? text s = [] ↔ Silent read? s [] := by
  obtain ⟨finds, tail, cover⟩ := exists_cover lawful s
  rw [cover.all_eq lawful]
  cases cover with
  | done h => exact ⟨fun _ => h, fun _ => rfl⟩
  | @next gap rest _ a _ _ hread _ =>
      constructor
      · intro h
        cases h
      · intro h
        have hne := List.append_ne_nil_of_left_ne_nil (lawful.text_ne_nil hread) rest
        have hnone := h _ hne (List.suffix_append gap _)
        rw [List.append_nil, hread] at hnone
        cases hnone

/-- A text with one find holds nothing that could be read behind it. -/
theorem all_eq_singleton (lawful : Lawful read? text) {s : Text} {found : Located α}
    (h : all read? text s = [found]) :
    ∃ before behind, first? read? text s = some (before, found.value, behind) ∧
      found.start = before.byteLength ∧ Silent read? behind [] := by
  obtain ⟨finds, tail, cover⟩ := exists_cover lawful s
  rw [cover.all_eq lawful] at h
  cases cover with
  | done _ => cases h
  | @next gap rest _ a finds hsilent hread cover =>
      simp only [located, List.cons.injEq] at h
      obtain ⟨rfl, hnil⟩ := h
      refine ⟨gap, rest, (first?_eq_some_iff lawful).mpr ⟨rfl, hsilent, hread⟩,
        Nat.zero_add _, ?_⟩
      cases cover with
      | done h => exact h
      | next _ _ _ => cases hnil

theorem le_start_of_mem_located {offset : Nat} {finds : List (Text × α)} {found : Located α}
    (h : found ∈ located text offset finds) : offset ≤ found.start := by
  induction finds generalizing offset with
  | nil => cases h
  | cons find finds ih =>
      rw [located, List.mem_cons] at h
      obtain rfl | h := h
      · exact Nat.le_add_right _ _
      · have := ih h
        omega

theorem located_pairwise (offset : Nat) (finds : List (Text × α)) :
    (located text offset finds).Pairwise fun a b =>
      a.start + (text a.value).byteLength ≤ b.start := by
  induction finds generalizing offset with
  | nil => exact .nil
  | cons find finds ih =>
      rw [located, List.pairwise_cons]
      exact ⟨fun found h => le_start_of_mem_located h, ih _⟩

theorem Cover.of_mem_located {s tail : Text} {finds : List (Text × α)}
    (cover : Cover read? text s finds tail) {offset : Nat} {found : Located α}
    (h : found ∈ located text offset finds) :
    ∃ x y, s = x ++ (text found.value ++ y) ∧ found.start = offset + x.byteLength ∧
      read? (text found.value ++ y) = some found.value := by
  induction cover generalizing offset with
  | done _ => cases h
  | @next gap rest _ a _ _ hr _ ih =>
      rw [located, List.mem_cons] at h
      obtain rfl | h := h
      · exact ⟨gap, rest, rfl, rfl, hr⟩
      · obtain ⟨x, y, rfl, hstart, hread⟩ := ih h
        refine ⟨gap ++ (text a ++ x), y, by simp, ?_, hread⟩
        rw [hstart, Text.byteLength_append, Text.byteLength_append]
        omega

/-- A find ends where the text of all finds up to it ends. -/
theorem exists_split_of_mem_located {offset : Nat} {finds : List (Text × α)} {found : Located α}
    (h : found ∈ located text offset finds) :
    ∃ earlier gap later, finds = (earlier ++ [(gap, found.value)]) ++ later ∧
      found.start + (text found.value).byteLength =
        offset + (respell text (earlier ++ [(gap, found.value)]) []).byteLength := by
  induction finds generalizing offset with
  | nil => cases h
  | cons find finds ih =>
      obtain ⟨gap, a⟩ := find
      rw [located, List.mem_cons] at h
      obtain rfl | h := h
      · refine ⟨[], gap, finds, rfl, ?_⟩
        simp [respell, Text.byteLength_append, Nat.add_assoc]
      · obtain ⟨earlier, gap', later, rfl, hend⟩ := ih h
        refine ⟨(gap, a) :: earlier, gap', later, rfl, ?_⟩
        rw [hend, List.cons_append, respell_cons, Text.byteLength_append, Text.byteLength_append]
        omega

/-- A scan passes over no place at which something can be read. -/
theorem Cover.exists_found (lawful : Lawful read? text) {s tail : Text} {finds : List (Text × α)}
    (cover : Cover read? text s finds tail) (offset : Nat) {before rest : Text}
    (hs : s = before ++ rest) (hread : read? rest ≠ none) :
    ∃ found ∈ located text offset finds, found.start ≤ offset + before.byteLength ∧
      offset + before.byteLength < found.start + (text found.value).byteLength := by
  have hne : rest ≠ [] := by
    rintro rfl
    obtain ⟨a, ha⟩ := Option.ne_none_iff_exists'.mp hread
    exact lawful.text_ne_nil ha (List.prefix_nil.mp (lawful.text_prefix ha))
  induction cover generalizing offset before with
  | done hsilent =>
      have hnone := hsilent rest hne (hs ▸ List.suffix_append _ _)
      rw [List.append_nil] at hnone
      exact absurd hnone hread
  | @next gap behind _ a finds hsilent _ _ ih =>
      obtain ⟨x, rfl, hx⟩ | ⟨x, hx, rfl, hrest⟩ := Text.append_eq_append_cases hs
      · obtain ⟨y, rfl, hy⟩ | ⟨y, hy, htext, -⟩ := Text.append_eq_append_cases hx
        · -- The place stands behind the find.
          obtain ⟨found, hfound, hin⟩ := ih (offset + gap.byteLength + (text a).byteLength) hy
          refine ⟨found, List.mem_cons_of_mem _ hfound, ?_⟩
          simp only [Text.byteLength_append]
          omega
        · -- The place is that of the find or stands inside it.
          have hpos := Text.byteLength_pos hy
          refine ⟨_, List.mem_cons_self, ?_⟩
          simp only [htext, Text.byteLength_append]
          omega
      · have hnone := hsilent x hx (List.suffix_append _ _)
        rw [← hrest] at hnone
        exact absurd hnone hread

/-- The first find of a scan is that of a search for one. -/
theorem first?_eq_head? (lawful : Lawful read? text) (s : Text) :
    (first? read? text s).map (fun found => found.2.1) =
      (all read? text s).head?.map Located.value := by
  obtain ⟨finds, tail, cover⟩ := exists_cover lawful s
  rw [cover.all_eq lawful]
  cases cover with
  | done hsilent =>
      rw [first?_eq_none_iff.mpr hsilent]
      rfl
  | next hsilent hread _ =>
      rw [(first?_eq_some_iff lawful).mpr ⟨rfl, hsilent, hread⟩]
      rfl

theorem Cover.all_values (lawful : Lawful read? text) {s tail : Text} {finds : List (Text × α)}
    (cover : Cover read? text s finds tail) :
    (all read? text s).map Located.value = finds.map Prod.snd := by
  rw [cover.all_eq lawful, located_values]

/-- The finds of a scan and those of a cover have the same values. -/
theorem Cover.forall_iff (lawful : Lawful read? text) {s tail : Text} {finds : List (Text × α)}
    (cover : Cover read? text s finds tail) (P : α → Prop) :
    (∀ find ∈ finds, P find.2) ↔ ∀ found ∈ all read? text s, P found.value := by
  have hvalues := cover.all_values lawful
  constructor
  · intro h found hfound
    have hmem := hvalues ▸ List.mem_map_of_mem (f := Located.value) hfound
    obtain ⟨find, hfind, hvalue⟩ := List.mem_map.mp hmem
    exact hvalue ▸ h find hfind
  · intro h find hfind
    have hmem := hvalues.symm ▸ List.mem_map_of_mem (f := Prod.snd) hfind
    obtain ⟨found, hfound, hvalue⟩ := List.mem_map.mp hmem
    exact hvalue ▸ h found hfound

/-- What is read at a position of `front` does not depend on whether `rest` stands behind it. -/
def Sealed (read? : Text → Option α) (front rest : Text) : Prop :=
  ∀ e, e ≠ [] → e <:+ front → read? (e ++ rest) = read? e

theorem Sealed.of_suffix {front front' rest : Text} (h : Sealed read? front rest)
    (hs : front' <:+ front) : Sealed read? front' rest := by
  intro e he hsuffix
  exact h e he (hsuffix.trans hs)

theorem Cover.prepend {front s tail : Text} {finds : List (Text × α)}
    (h : Silent read? front s) (cover : Cover read? text s finds tail) :
    ∃ finds' tail', Cover read? text (front ++ s) finds' tail' ∧
      finds'.map Prod.snd = finds.map Prod.snd := by
  cases cover with
  | done hsilent =>
      refine ⟨[], front ++ s, .done ?_, rfl⟩
      rw [silent_append_iff, List.append_nil]
      exact ⟨h, hsilent⟩
  | @next gap rest _ a finds hsilent hread cover =>
      have hgap : Silent read? (front ++ gap) (text a ++ rest) :=
        silent_append_iff.mpr ⟨h, hsilent⟩
      refine ⟨(front ++ gap, a) :: finds, tail, ?_, rfl⟩
      rw [← List.append_assoc]
      exact .next hgap hread cover

/-- A cover divides between two finds, if the border seals what stands before it. -/
theorem Cover.divide (lawful : Lawful read? text) {s tail : Text}
    {first second : List (Text × α)} (cover : Cover read? text s (first ++ second) tail)
    (border : Sealed read? (respell text first []) (respell text second tail)) :
    Cover read? text (respell text first []) first [] ∧
      Cover read? text (respell text second tail) second tail := by
  induction first generalizing s with
  | nil =>
      refine ⟨.done (silent_nil _), ?_⟩
      rw [List.nil_append] at cover
      rw [cover.respell_eq]
      exact cover
  | cons find first ih =>
      obtain ⟨gap, a⟩ := find
      rw [List.cons_append] at cover
      cases cover with
      | @next _ rest _ _ _ hsilent hread hrest =>
          rw [← hrest.respell_eq, respell_append] at hsilent hread
          rw [respell_cons] at border ⊢
          have hborder : Sealed read? (respell text first []) (respell text second tail) :=
            border.of_suffix ⟨gap ++ text a, by simp only [List.append_assoc]⟩
          obtain ⟨hfirst, hsecond⟩ := ih hrest hborder
          refine ⟨.next ?_ ?_ hfirst, hsecond⟩
          · intro e he ⟨z, hz⟩
            have hin : e ++ (text a ++ respell text first []) <:+
                gap ++ (text a ++ respell text first []) :=
              ⟨z, by rw [← hz, List.append_assoc]⟩
            rw [← border _ (List.append_ne_nil_of_left_ne_nil he _) hin, List.append_assoc,
              List.append_assoc]
            exact hsilent e he ⟨z, hz⟩
          · have hne := List.append_ne_nil_of_left_ne_nil (lawful.text_ne_nil hread)
              (respell text first [])
            rw [← border _ hne (List.suffix_append gap _), List.append_assoc]
            exact hread

/-- Two texts one behind the other have the finds of both, if the border seals the first. -/
theorem Cover.append (lawful : Lawful read? text) {x y tail tail' : Text}
    {finds finds' : List (Text × α)}
    (cover : Cover read? text x finds tail) (cover' : Cover read? text y finds' tail')
    (border : Sealed read? x y) :
    ∃ all behind, Cover read? text (x ++ y) all behind ∧
      all.map Prod.snd = finds.map Prod.snd ++ finds'.map Prod.snd := by
  induction cover with
  | done hsilent =>
      refine cover'.prepend ?_
      intro e he hs
      rw [border e he hs, ← hsilent e he hs, List.append_nil]
  | @next gap rest _ a finds hsilent hread _ ih =>
      obtain ⟨all, behind, hcover, hvalues⟩ :=
        ih (border.of_suffix ⟨gap ++ text a, by simp only [List.append_assoc]⟩)
      refine ⟨(gap, a) :: all, behind, ?_, by simp only [List.map_cons, hvalues, List.cons_append]⟩
      rw [List.append_assoc, List.append_assoc]
      refine .next ?_ ?_ hcover
      · intro e he hs
        rw [← hsilent e he hs, ← List.append_assoc (text a), ← List.append_assoc e]
        obtain ⟨z, rfl⟩ := hs
        exact border _ (List.append_ne_nil_of_left_ne_nil he _)
          ⟨z, by simp only [List.append_assoc]⟩
      · rw [← hread, ← List.append_assoc]
        exact border _ (List.append_ne_nil_of_left_ne_nil (lawful.text_ne_nil hread) _)
          (List.suffix_append _ _)

end StagedMocks.Scan
