import StagedMocks.Proofs.TestFunction.Grammar

/-!
What the search for test functions finds. Each find is a function of the grammar at
its own place, and the finds do not overlap. A header that is not inside a find stands
behind all of them and has no closing line behind it, so no function is passed over.
-/
namespace StagedMocks.TestFunction

instance (c : Char) : Decidable (NameChar c) :=
  inferInstanceAs (Decidable (_ ∨ _ ∨ _ ∨ _))

theorem IsEffects.mem {keywords : List Text} {effects : Text} (h : IsEffects keywords effects)
    {c : Char} (hc : c ∈ effects) :
    c ∈ "async".toList ++ "throws".toList ∨ Text.isBlank c = true := by
  induction h with
  | nil => cases hc
  | cons _ hb hk _ ih =>
      simp only [List.mem_append] at hc
      obtain hc | hc | hc := hc
      · exact .inr (hb c hc)
      · left
        obtain rfl | rfl := hk
        · exact List.mem_append_left _ hc
        · exact List.mem_append_right _ hc
      · exact ih hc

/-- A header holds one brace, its last character. -/
theorem IsHeader.eq_append_brace {declaration effects header : Text}
    (h : IsHeader declaration effects header) :
    ∃ front, header = front ++ ['{'] ∧
      ∀ c ∈ front, NameChar c ∨ Text.isBlank c = true ∨ c = '(' ∨ c = ')' := by
  obtain ⟨⟨letters, -, hl, rfl⟩, ⟨keywords, heffects⟩, blanks, hb, rfl⟩ := h
  refine ⟨_, rfl, ?_⟩
  intro c hc
  simp only [List.mem_append] at hc
  obtain (((hc | hc) | hc) | hc) | hc := hc
  · have hfixed : ∀ d ∈ testOpening, NameChar d ∨ Text.isBlank d = true :=
      Text.forall_mem_of_all (by decide)
    obtain h | h := hfixed c hc
    · exact .inl h
    · exact .inr (.inl h)
  · exact .inl (hl c hc)
  · have hfixed : ∀ d ∈ emptyParameters, d = '(' ∨ d = ')' :=
      Text.forall_mem_of_all (by decide)
    exact .inr (.inr (hfixed c hc))
  · have hfixed : ∀ d ∈ "async".toList ++ "throws".toList, NameChar d :=
      Text.forall_mem_of_all (by decide)
    obtain h | h := heffects.mem hc
    · exact .inl (hfixed c h)
    · exact .inr (.inl h)
  · exact .inr (.inl (hb c hc))

theorem IsClosing.brace_mem {closing : Text} (h : IsClosing closing) : '}' ∈ closing := by
  obtain ⟨blanks, -, -, rfl⟩ := h
  simp

theorem IsClosing.not_mem {closing : Text} (h : IsClosing closing) : '{' ∉ closing := by
  obtain ⟨blanks, -, hb, rfl⟩ := h
  have hblank : '{' ∉ blanks := fun hc => absurd (hb _ hc) (by decide)
  simp [hblank]

/-- A header ends before a closing line that does not stand in front of its end: a closing
line has no opening brace, and a header no closing one. -/
theorem IsHeader.prefix_of_closing {declaration effects header rest x closing y : Text}
    (h : IsHeader declaration effects header) (hc : IsClosing closing)
    (heq : header ++ rest = x ++ (closing ++ y)) : header <+: x := by
  obtain ⟨front, rfl, hfront⟩ := h.eq_append_brace
  obtain hx | ⟨w, hw, hp, hsplit⟩ := Text.prefix_append_iff.mp ⟨rest, heq⟩
  · exact hx
  · have hlast : '{' ∈ w := Text.last_mem_of_append_eq hsplit hw
    obtain hp | ⟨v, -, -, rfl⟩ := Text.prefix_append_iff.mp hp
    · exact absurd (hp.subset hlast) hc.not_mem
    · have hmem : '}' ∈ front ++ ['{'] := by
        rw [hsplit]
        simp [hc.brace_mem]
      obtain hmem | hmem := List.mem_append.mp hmem
      · obtain h | h | h | h := hfront _ hmem
        · exact absurd h (by decide)
        · exact absurd h (by decide)
        · cases h
        · cases h
      · simp at hmem

/-- A header in front of a closing line begins a function. -/
theorem read?_header_closing {declaration effects header x closing y : Text}
    (h : IsHeader declaration effects header) (hc : IsClosing closing)
    (hp : header <+: x ++ (closing ++ y)) : read? (x ++ (closing ++ y)) ≠ none := by
  obtain ⟨rest, hrest⟩ := hp
  obtain ⟨z, rfl⟩ := h.prefix_of_closing hc hrest
  rw [← hrest, read?_header h]
  simp only [ne_eq, Option.map_eq_none_iff, bodyAndClosing?_eq_none_iff]
  intro hnone
  rw [List.append_assoc] at hrest
  rw [List.append_cancel_left hrest] at hnone
  exact hnone (closing ++ y) closing (List.suffix_append _ _) hc (List.prefix_append _ _)

theorem stripLeading_once {opening s : Text} (h : Text.after? opening s = none) (fuel : Nat) :
    stripLeading opening (fuel + 1) (opening ++ s) = s := by
  rw [stripLeading, Text.after?_append]
  cases fuel with
  | zero => rfl
  | succ fuel => simp only [stripLeading, h]

/-- What every name of a test function starts with. -/
def nameOpening : Text := ['t', 'e', 's', 't', '_']

/-- The name is what stands between the word and the empty parameter list. -/
theorem name_of_declaration {function : TestFunction} {letters : Text} (hne : letters ≠ [])
    (hl : ∀ c ∈ letters, NameChar c)
    (h : function.declaration = testOpening ++ letters ++ emptyParameters) :
    function.name = nameOpening ++ letters := by
  have hword : testOpening = declarationWord ++ nameOpening := rfl
  rw [hword, List.append_assoc, List.append_assoc] at h
  have hfront : stripLeading declarationWord function.declaration.length function.declaration =
      nameOpening ++ letters ++ emptyParameters := by
    have hlen : function.declaration.length = (function.declaration.length - 1) + 1 := by
      have hpos : 0 < declarationWord.length := by decide
      rw [h, List.length_append]
      omega
    rw [hlen, h, ← List.append_assoc nameOpening]
    apply stripLeading_once
    rw [Text.after?_eq_none_iff]
    intro ⟨t, ht⟩
    cases (List.cons.inj ht).1
  have hback : Text.after? emptyParameters.reverse (nameOpening ++ letters).reverse = none := by
    rw [Text.after?_eq_none_iff]
    intro ⟨t, ht⟩
    obtain rfl | ⟨init, c, rfl⟩ := List.eq_nil_or_concat letters
    · exact hne rfl
    · have hlast : NameChar c := hl c (by simp)
      rw [List.concat_eq_append, ← List.append_assoc, List.reverse_concat] at ht
      have hc : ')' = c := (List.cons.inj ht).1
      exact absurd (hc ▸ hlast) (by decide)
  rw [name, hfront, stripTrailing, List.reverse_append, List.length_append,
    show emptyParameters.length = 1 + 1 from rfl, ← Nat.add_assoc, stripLeading_once hback,
    List.reverse_reverse]

/-- At a header the search has a find around it, or no find and no closing line behind it. -/
theorem header_covered {s tail : Text} {finds : List (Text × TestFunction)}
    (cover : Scan.Cover read? TestFunction.text s finds tail) (offset : Nat)
    {before header rest declaration effects : Text} (hs : s = before ++ (header ++ rest))
    (h : IsHeader declaration effects header) :
    (∃ found ∈ Scan.located TestFunction.text offset finds,
      found.start ≤ offset + before.byteLength ∧
      offset + before.byteLength < found.start + found.value.text.byteLength) ∨
    ((∀ found ∈ Scan.located TestFunction.text offset finds,
      found.start + found.value.text.byteLength ≤ offset + before.byteLength) ∧
      ∀ e closing, e <:+ rest → IsClosing closing → ¬ closing <+: e) := by
  induction cover generalizing offset before with
  | done hsilent =>
      subst hs
      right
      refine ⟨fun found hf => (nomatch hf), ?_⟩
      have hnone := hsilent (header ++ rest) (by simp [h.ne_nil]) (List.suffix_append _ _)
      rw [List.append_nil, read?_header h, Option.map_eq_none_iff] at hnone
      exact bodyAndClosing?_eq_none_iff.mp hnone
  | @next gap behind tail a finds hsilent hread _ ih =>
      obtain ⟨x, rfl, hx⟩ | ⟨x, hne, rfl, hx⟩ := Text.append_eq_append_cases hs
      · rw [Scan.located]
        obtain ⟨y, rfl, hy⟩ | ⟨y, hne, hsplit, -⟩ := Text.append_eq_append_cases hx
        · -- The header starts behind the find.
          obtain ⟨found, hf, hin⟩ | hout := ih (offset + gap.byteLength + a.text.byteLength) hy
          · left
            refine ⟨found, List.mem_cons_of_mem _ hf, ?_⟩
            simp only [Text.byteLength_append]
            omega
          · right
            refine ⟨?_, hout.2⟩
            intro found hf
            simp only [Text.byteLength_append]
            obtain rfl | hf := List.mem_cons.mp hf
            · dsimp only
              omega
            · have := hout.1 found hf
              omega
        · -- The header starts inside the find.
          left
          refine ⟨⟨offset + gap.byteLength, a⟩, List.mem_cons_self, ?_⟩
          have hpos := Text.byteLength_pos hne
          simp only [hsplit, Text.byteLength_append]
          omega
      · -- In the gap nothing can be read, but the find would close the header.
        obtain ⟨-, closing, hc, -, htext⟩ := (read?_sound hread).1
        have hend : x ++ (a.text ++ behind) =
            (x ++ (a.header ++ a.body)) ++ (closing ++ behind) := by
          rw [htext]
          simp only [List.append_assoc]
        have hnone := hsilent x hne (List.suffix_append _ _)
        rw [hend] at hx hnone
        exact absurd hnone (read?_header_closing h hc ⟨rest, hx⟩)

theorem findAll_eq {source tail : Text} {finds : List (Text × TestFunction)}
    (cover : Scan.Cover read? TestFunction.text source finds tail) :
    findAll source = Scan.located TestFunction.text 0 finds :=
  cover.all_eq read?_lawful

theorem grammatical_of_mem_findAll {source : Text} {found : Scan.Located TestFunction}
    (h : found ∈ findAll source) : found.value.Grammatical := by
  obtain ⟨finds, tail, cover⟩ := Scan.exists_cover read?_lawful source
  rw [findAll_eq cover] at h
  obtain ⟨_, _, _, _, hread⟩ := cover.of_mem_located h
  exact (read?_sound hread).1

theorem grammatical_of_mem_finds {source tail : Text} {finds : List (Text × TestFunction)}
    (cover : Scan.Cover read? TestFunction.text source finds tail) :
    ∀ find ∈ finds, find.2.Grammatical :=
  (cover.forall_iff read?_lawful Grammatical).mpr fun _ h => grammatical_of_mem_findAll h

/-- The search accepts exactly its grammar: its finds are ordered and apart, each is a function
of the grammar that stands at its offsets, and a header outside all of them stands behind the
last one with no closing line behind it. -/
theorem findAll_exact (source : Text) :
    ((findAll source).Pairwise fun a b =>
      a.start < b.start ∧ a.start + a.value.text.byteLength ≤ b.start) ∧
    (∀ found ∈ findAll source,
      Text.slice? found.start (found.start + found.value.text.byteLength) source =
        some found.value.text ∧
      found.value.Grammatical ∧
      found.value.declaration = declarationWord ++ found.value.name ++ emptyParameters ∧
      ∃ letters : Text, letters ≠ [] ∧ (∀ c ∈ letters, NameChar c) ∧
        found.value.name = nameOpening ++ letters) ∧
    ∀ before header rest declaration effects, source = before ++ (header ++ rest) →
      IsHeader declaration effects header →
      (∃ found ∈ findAll source, found.start ≤ before.byteLength ∧
        before.byteLength < found.start + found.value.text.byteLength) ∨
      ((∀ found ∈ findAll source,
        found.start + found.value.text.byteLength ≤ before.byteLength) ∧
        ∀ e closing, e <:+ rest → IsClosing closing → ¬ closing <+: e) := by
  obtain ⟨finds, tail, cover⟩ := Scan.exists_cover read?_lawful source
  rw [findAll_eq cover]
  refine ⟨?_, ?_, ?_⟩
  · refine (Scan.located_pairwise 0 finds).imp_of_mem ?_
    intro a b ha _ hab
    obtain ⟨x, y, -, -, hread⟩ := cover.of_mem_located ha
    have hpos := Text.byteLength_pos (read?_lawful.text_ne_nil hread)
    exact ⟨by omega, hab⟩
  · intro found hf
    obtain ⟨x, y, rfl, hstart, hread⟩ := cover.of_mem_located hf
    have hg := (read?_sound hread).1
    obtain ⟨letters, hne, hl, hd⟩ := hg.isHeader.declaration_eq
    have hname := name_of_declaration hne hl hd
    refine ⟨?_, hg, ?_, letters, hne, hl, hname⟩
    · rw [hstart, Nat.zero_add]
      exact Text.slice?_append x found.value.text y
    · rw [hname, hd]
      rfl
  · intro before header rest declaration effects hs h
    simpa only [Nat.zero_add] using header_covered cover 0 hs h

/-- A function, and behind it a header that nothing closes. -/
def unclosedSource : Text :=
  "func test_a() \x7b\n    \x7d\n".toList ++ ("func test_b() \x7b".toList ++ [])

theorem findAll_unclosedSource :
    (∃ found ∈ findAll unclosedSource,
      found.start ≤ 22 ∧ 22 < found.start + found.value.text.byteLength) ∨
    ((∀ found ∈ findAll unclosedSource, found.start + found.value.text.byteLength ≤ 22) ∧
      ∀ e closing, e <:+ [] → IsClosing closing → ¬ closing <+: e) := by
  have hheader : IsHeader "func test_b()".toList [] "func test_b() \x7b".toList :=
    ⟨⟨['b'], by decide, Text.forall_mem_of_all (by decide), by decide⟩, ⟨[], .nil⟩,
      [' '], Text.forall_mem_of_all (by decide), by decide⟩
  have hlength : Text.byteLength "func test_a() \x7b\n    \x7d\n".toList = 22 := by decide
  have h := (findAll_exact unclosedSource).2.2 _ _ _ _ _ rfl hheader
  rw [hlength] at h
  exact h

end StagedMocks.TestFunction
