import StagedMocks.Proofs.TestFunction.Segmentation
import StagedMocks.Proofs.Occurrence

/-!
Where one test function ends and another begins. A closing line seals what stands before
it, and no header begins in front of another one and ends in it, so texts that end in a
closing line or begin with a header can be searched one by one.
-/
namespace StagedMocks.TestFunction

theorem IsHeader.head {declaration effects header : Text}
    (h : IsHeader declaration effects header) : ∃ rest, header = testOpening ++ rest := by
  obtain ⟨⟨letters, _, _, rfl⟩, _, blanks, _, rfl⟩ := h
  refine ⟨letters ++ (emptyParameters ++ (effects ++ (blanks ++ ['{']))), ?_⟩
  simp only [List.append_assoc]

theorem head_of_read? {s : Text} {function : TestFunction} (h : read? s = some function) :
    s.head? = some 'f' := by
  obtain ⟨⟨hheader, closing, _, _, htext⟩, rest, rfl⟩ := read?_sound h
  obtain ⟨rest', hrest⟩ := hheader.head
  rw [htext, hrest]
  rfl

theorem IsClosing.head_ne {closing e : Text} (h : IsClosing closing) (hs : e <:+ closing) :
    e.head? ≠ some 'f' := by
  intro hf
  have hmem := hs.subset (List.mem_of_head? hf)
  obtain ⟨blanks, _, hb, rfl⟩ := h
  simp only [List.mem_append, List.mem_singleton] at hmem
  obtain (hmem | hmem) | hmem := hmem
  · exact absurd hmem (by decide)
  · exact absurd (hb _ hmem) (by decide)
  · exact absurd hmem (by decide)

/-- A closing line that starts in a body does not reach a closing line behind it, so the blanks
of that one do not matter. -/
theorem Unclosed.exchange {body closing closing' : Text} (h : Unclosed body closing)
    (hc : IsClosing closing') : Unclosed body closing' := by
  intro e he hs line hline hp
  obtain hp | ⟨w, hw, hwp, heq⟩ := Text.prefix_append_iff.mp hp
  · exact h e he hs line hline (hp.trans (List.prefix_append _ _))
  · have hlength := hline.length_eq
    obtain ⟨blanks, hlen, hb, rfl⟩ := hc
    have hshort : w <+: ['\n'] ++ blanks := by
      refine List.prefix_of_prefix_length_le hwp (List.prefix_append _ _) ?_
      have hpos := List.length_pos_iff.mpr he
      rw [heq, List.length_append] at hlength
      simp only [List.length_append, List.length_singleton, hlen]
      omega
    have hlast : '}' ∈ w := by
      obtain ⟨blanks', _, _, hline⟩ := hline
      exact Text.last_mem_of_append_eq (hline.symm.trans heq) hw
    obtain hmem | hmem := List.mem_append.mp (hshort.subset hlast)
    · exact absurd hmem (by decide)
    · exact absurd (hb _ hmem) (by decide)

/-- A closing line ends a function that starts before it, whatever stands behind. -/
theorem text_prefix_of_closing {x closing rest : Text} {function : TestFunction}
    (hc : IsClosing closing) (h : read? (x ++ (closing ++ rest)) = some function) :
    function.text <+: x ++ closing := by
  obtain ⟨⟨hheader, line, hline, hunclosed, htext⟩, behind, hsplit⟩ := read?_sound h
  rw [htext] at hsplit ⊢
  simp only [List.append_assoc] at hsplit ⊢
  obtain ⟨z, rfl⟩ := hheader.prefix_of_closing hc hsplit
  rw [List.append_assoc] at hsplit ⊢
  rw [List.prefix_append_right_inj]
  have hinner := List.append_cancel_left hsplit
  obtain ⟨t, ht, _⟩ | ⟨t, hne, ht, hrest⟩ := Text.append_eq_append_cases hinner
  · have hfront : function.body ++ line <+: z ++ (closing ++ rest) :=
      ⟨behind, by rw [← hinner]; simp only [List.append_assoc]⟩
    refine List.prefix_of_prefix_length_le hfront ⟨rest, by simp only [List.append_assoc]⟩ ?_
    simp only [ht, List.length_append, hline.length_eq, hc.length_eq]
    omega
  · rw [← @unclosed_append_iff _ _ behind hline.length_eq] at hunclosed
    exact absurd ⟨rest, hrest⟩ (hunclosed t hne ⟨z, ht.symm⟩ closing hc)

theorem sealed_closing {closing : Text} (hc : IsClosing closing) (x rest : Text) :
    Scan.Sealed read? (x ++ closing) rest := by
  intro e he hs
  obtain hs | ⟨e', _, _, rfl⟩ := Text.suffix_append_iff.mp hs
  · -- Inside the closing line no header begins.
    have hnone : ∀ y, read? (e ++ y) = none := by
      intro y
      cases hread : read? (e ++ y) with
      | none => rfl
      | some function =>
          have hf := head_of_read? hread
          cases e with
          | nil => exact absurd rfl he
          | cons c e =>
              have hhead : (c :: e).head? = some 'f' := hf
              exact absurd hhead (hc.head_ne hs)
    have hnil := hnone []
    rw [List.append_nil] at hnil
    rw [hnone, hnil]
  · refine Option.ext fun function => ?_
    rw [List.append_assoc]
    constructor
    · intro h
      exact read?_eq_some_iff.mpr ⟨(read?_sound h).1, text_prefix_of_closing hc h⟩
    · intro h
      obtain ⟨hg, hp⟩ := read?_sound h
      refine read?_eq_some_iff.mpr ⟨hg, hp.trans ⟨rest, ?_⟩⟩
      rw [List.append_assoc]

theorem IsHeader.declaration_once {declaration effects header x rest : Text}
    (h : IsHeader declaration effects header) (hx : x ≠ []) :
    header ≠ x ++ (testOpening ++ rest) := by
  obtain ⟨⟨letters, _, hl, rfl⟩, ⟨keywords, heffects⟩, blanks, hb, rfl⟩ := h
  intro heq
  simp only [List.append_assoc] at heq
  have hapart : Text.Apart testOpening testOpening := by decide
  obtain ⟨v, rfl⟩ := hapart.prefix_left hx (heq ▸ List.prefix_append _ _)
  rw [List.append_assoc] at heq
  have hin : testOpening <:+: letters ++ '(' :: (')' :: (effects ++ (blanks ++ ['{']))) :=
    ⟨v, rest, by rw [List.append_assoc, ← List.append_cancel_left heq]; rfl⟩
  obtain hin | hin := (Text.infix_append_cons_iff (by decide)).mp hin
  · have hmem : ' ' ∈ letters := hin.subset (by decide)
    exact absurd (hl _ hmem) (by decide)
  · have hmem : 'e' ∈ ')' :: (effects ++ (blanks ++ ['{'])) := hin.subset (by decide)
    simp only [List.mem_cons, List.mem_append, List.not_mem_nil, or_false] at hmem
    obtain hmem | hmem | hmem | hmem := hmem
    · exact absurd hmem (by decide)
    · obtain hmem | hmem := heffects.mem hmem
      · exact absurd hmem (by decide)
      · exact absurd hmem (by decide)
    · exact absurd (hb _ hmem) (by decide)
    · exact absurd hmem (by decide)

theorem IsHeader.prefix_of_declaration {declaration effects header x rest : Text}
    (h : IsHeader declaration effects header) (hx : x ≠ [])
    (hp : header <+: x ++ (testOpening ++ rest)) : header <+: x := by
  obtain ⟨front, hbrace, _⟩ := h.eq_append_brace
  obtain hp | ⟨w, hw, hwp, heq⟩ := Text.prefix_append_iff.mp hp
  · exact hp
  · have hlast : '{' ∈ w := Text.last_mem_of_append_eq (hbrace ▸ heq) hw
    obtain hwp | ⟨v, _, _, rfl⟩ := Text.prefix_append_iff.mp hwp
    · exact absurd (hwp.subset hlast) (by decide)
    · exact absurd heq (h.declaration_once hx)

/-- Nothing is read in front of a function, whatever the declaration there goes on with. -/
theorem silent_of_declaration {gap rest rest' : Text} {function : TestFunction}
    (h : Scan.Silent read? gap (function.text ++ rest)) (hg : function.Grammatical) :
    Scan.Silent read? gap (testOpening ++ rest') := by
  intro e he hs
  cases hread : read? (e ++ (testOpening ++ rest')) with
  | none => rfl
  | some found =>
      obtain ⟨⟨hheader, line, _, _, htext⟩, hp⟩ := read?_sound hread
      have hbegins : found.header <+: e ++ (testOpening ++ rest') := by
        refine (List.prefix_append _ (found.body ++ line)).trans ?_
        rw [← List.append_assoc, ← htext]
        exact hp
      have hin := hheader.prefix_of_declaration he hbegins
      obtain ⟨_, closing, hc, _, hfunction⟩ := hg
      have hnone := h e he hs
      rw [hfunction] at hnone
      have hsplit : e ++ (function.header ++ function.body ++ closing ++ rest) =
          (e ++ (function.header ++ function.body)) ++ (closing ++ rest) := by
        simp only [List.append_assoc]
      rw [hsplit] at hnone
      refine absurd hnone (read?_header_closing hheader hc ?_)
      rw [List.append_assoc]
      exact hin.trans (List.prefix_append _ _)

theorem findAll_text {function : TestFunction} (h : function.Grammatical) :
    (findAll function.text).map Scan.Located.value = [function] := by
  have hread : read? (function.text ++ []) = some function :=
    read?_eq_some_iff.mpr ⟨h, List.prefix_append _ _⟩
  have hcover : Scan.Cover read? TestFunction.text ([] ++ (function.text ++ []))
      [([], function)] [] :=
    .next (Scan.silent_nil _) hread (.done (Scan.silent_nil _))
  rw [List.nil_append, List.append_nil] at hcover
  exact hcover.all_values read?_lawful

end StagedMocks.TestFunction
