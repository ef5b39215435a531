import StagedMocks.TestFunction.Reader
import StagedMocks.Proofs.Scan

/-!
The grammar of test functions, and the reader against it. A header is a declaration,
effects, blanks and a brace; a body holds no closing line and is followed by one.
The reader accepts exactly the texts that begin with a function of this grammar, and
at a header it fails only where no closing line follows.
-/
namespace StagedMocks.TestFunction

/-- A letter, a digit or an underscore, all of ASCII. -/
def NameChar (c : Char) : Prop :=
  ('A' ≤ c ∧ c ≤ 'Z') ∨ ('a' ≤ c ∧ c ≤ 'z') ∨ ('0' ≤ c ∧ c ≤ '9') ∨ c = '_'

/-- Effect keywords in a row, each after at least one blank. -/
inductive IsEffects : List Text → Text → Prop where
  | nil : IsEffects [] []
  | cons {blanks keyword rest : Text} {keywords : List Text} :
      blanks ≠ [] → (∀ c ∈ blanks, Text.isBlank c = true) →
      keyword = "async".toList ∨ keyword = "throws".toList → IsEffects keywords rest →
      IsEffects (keyword :: keywords) (blanks ++ (keyword ++ rest))

/-- The texts of a declaration and its effects make up a header. -/
structure IsHeader (declaration effects header : Text) : Prop where
  declaration_eq : ∃ letters : Text, letters ≠ [] ∧ (∀ c ∈ letters, NameChar c) ∧
    declaration = testOpening ++ letters ++ emptyParameters
  effects_row : ∃ keywords, IsEffects keywords effects
  header_eq : ∃ blanks : Text, (∀ c ∈ blanks, Text.isBlank c = true) ∧
    header = declaration ++ effects ++ blanks ++ ['{']

/-- A line feed, exactly four blanks and a brace. -/
def IsClosing (s : Text) : Prop :=
  ∃ blanks : Text, blanks.length = 4 ∧ (∀ c ∈ blanks, Text.isBlank c = true) ∧
    s = ['\n'] ++ blanks ++ ['}']

/-- No closing line starts in `front` when `rest` stands behind it. -/
def Unclosed (front rest : Text) : Prop :=
  ∀ e, e ≠ [] → e <:+ front → ∀ closing, IsClosing closing → ¬ closing <+: e ++ rest

/-- The parts of a function as they make up its text. -/
structure Grammatical (function : TestFunction) : Prop where
  isHeader : IsHeader function.declaration function.effects function.header
  text_eq : ∃ closing, IsClosing closing ∧ Unclosed function.body closing ∧
    function.text = function.header ++ function.body ++ closing

theorem isNameChar_iff {c : Char} : isNameChar c = true ↔ NameChar c := by
  have hletter : c.isAlpha = (decide ('A' ≤ c ∧ c ≤ 'Z') || ('a' ≤ c && c ≤ 'z')) := rfl
  simp only [isNameChar, NameChar, Char.isAlphanum, hletter, Char.isDigit, Bool.or_eq_true,
    Bool.and_eq_true, decide_eq_true_eq, beq_iff_eq, or_assoc, Char.le_def, ge_iff_le]

theorem declaration?_eq_some {s declaration rest : Text}
    (h : declaration? s = some (declaration, rest)) :
    s = declaration ++ rest ∧ ∃ letters : Text, letters ≠ [] ∧ (∀ c ∈ letters, NameChar c) ∧
      declaration = testOpening ++ letters ++ emptyParameters := by
  simp only [declaration?, Option.bind_eq_bind, Option.bind_eq_some_iff] at h
  obtain ⟨signature, hs, h⟩ := h
  rw [Text.after?_eq_some_iff] at hs
  split at h
  · cases h
  · rename_i hne
    simp only [Option.bind_eq_some_iff, Text.after?_eq_some_iff, Option.pure_def,
      Option.some.injEq, Prod.mk.injEq] at h
    obtain ⟨behind, hb, rfl, rfl⟩ := h
    refine ⟨?_, signature.takeWhile isNameChar, by simpa using hne, ?_, rfl⟩
    · calc s = testOpening ++ signature := hs
        _ = testOpening ++ (signature.takeWhile isNameChar ++ signature.dropWhile isNameChar) := by
          rw [List.takeWhile_append_dropWhile]
        _ = _ := by rw [hb]; simp only [List.append_assoc]
    · intro c hc
      exact isNameChar_iff.mp (List.all_eq_true.mp List.all_takeWhile c hc)

theorem declaration?_append {letters : Text} (hne : letters ≠ [])
    (hl : ∀ c ∈ letters, NameChar c) (rest : Text) :
    declaration? (testOpening ++ letters ++ emptyParameters ++ rest) =
      some (testOpening ++ letters ++ emptyParameters, rest) := by
  have hrun : ∀ c ∈ letters, isNameChar c = true := fun c hc => isNameChar_iff.mpr (hl c hc)
  have hstop : ∀ c ∈ (emptyParameters ++ rest).head?, isNameChar c = false := by
    intro c hc
    cases hc
    decide
  simp only [List.append_assoc, declaration?, Text.after?_append, Option.bind_eq_bind,
    Option.bind_some, Text.takeWhile_run hrun hstop, Text.dropWhile_run hrun hstop]
  rw [if_neg (by simpa using hne)]
  rfl

/-- The two keywords start with different letters, so at most one can be read. -/
theorem keyword?_eq_some_iff {s keyword rest : Text} :
    keyword? s = some (keyword, rest) ↔
      (keyword = "async".toList ∨ keyword = "throws".toList) ∧ s = keyword ++ rest := by
  simp only [keyword?]
  cases ha : Text.after? "async".toList s with
  | some behind =>
      obtain rfl := Text.after?_eq_some_iff.mp ha
      constructor
      · intro h
        cases h
        exact ⟨.inl rfl, rfl⟩
      · intro hparts
        obtain ⟨rfl | rfl, h⟩ := hparts
        · rw [List.append_cancel_left h]
        · cases h
  | none =>
      rw [Text.after?_eq_none_iff] at ha
      simp only [Option.map_eq_some_iff, Text.after?_eq_some_iff, Prod.mk.injEq]
      constructor
      · intro hparts
        obtain ⟨behind, rfl, rfl, rfl⟩ := hparts
        exact ⟨.inr rfl, rfl⟩
      · intro hparts
        obtain ⟨rfl | rfl, rfl⟩ := hparts
        · exact absurd (List.prefix_append _ _) ha
        · exact ⟨rest, rfl, rfl, rfl⟩

theorem keyword_head {keyword rest : Text}
    (h : keyword = "async".toList ∨ keyword = "throws".toList) :
    ∀ c ∈ (keyword ++ rest).head?, Text.isBlank c = false := by
  intro c hc
  obtain rfl | rfl := h
  · cases hc
    decide
  · cases hc
    decide

theorem effect?_eq_some {s effect rest : Text} (h : effect? s = some (effect, rest)) :
    ∃ blanks keyword : Text, blanks ≠ [] ∧ (∀ c ∈ blanks, Text.isBlank c = true) ∧
      (keyword = "async".toList ∨ keyword = "throws".toList) ∧
      effect = blanks ++ keyword ∧ s = effect ++ rest := by
  simp only [effect?] at h
  split at h
  · cases h
  · rename_i hne
    simp only [Option.map_eq_some_iff, Prod.mk.injEq] at h
    obtain ⟨⟨keyword, behind⟩, hk, rfl, rfl⟩ := h
    obtain ⟨hword, hdrop⟩ := keyword?_eq_some_iff.mp hk
    refine ⟨s.takeWhile Text.isBlank, keyword, by simpa using hne, ?_, hword, rfl, ?_⟩
    · exact fun c hc => List.all_eq_true.mp List.all_takeWhile c hc
    · rw [List.append_assoc, ← hdrop, List.takeWhile_append_dropWhile]

theorem effect?_append {blanks keyword : Text} (hne : blanks ≠ [])
    (hb : ∀ c ∈ blanks, Text.isBlank c = true)
    (hk : keyword = "async".toList ∨ keyword = "throws".toList) (rest : Text) :
    effect? (blanks ++ (keyword ++ rest)) = some (blanks ++ keyword, rest) := by
  have hkeyword : keyword? (keyword ++ rest) = some (keyword, rest) :=
    keyword?_eq_some_iff.mpr ⟨hk, rfl⟩
  simp only [effect?, Text.takeWhile_run hb (keyword_head hk),
    Text.dropWhile_run hb (keyword_head hk), hkeyword, Option.map_some]
  rw [if_neg (by simpa using hne)]

/-- In front of the opening brace no effect is left to read. -/
theorem effect?_brace {blanks : Text} (hb : ∀ c ∈ blanks, Text.isBlank c = true) (rest : Text) :
    effect? (blanks ++ '{' :: rest) = none := by
  have hstop : ∀ c ∈ ('{' :: rest).head?, Text.isBlank c = false := by
    intro c hc
    cases hc
    decide
  have hkeyword : keyword? ('{' :: rest) = none := by
    simp [keyword?, Text.after?]
  simp only [effect?, Text.takeWhile_run hb hstop, Text.dropWhile_run hb hstop, hkeyword,
    Option.map_none, ite_self]

theorem effectsUpTo_sound {limit : Nat} {s effects rest : Text}
    (h : effectsUpTo limit s = (effects, rest)) :
    s = effects ++ rest ∧ ∃ keywords, IsEffects keywords effects := by
  induction limit generalizing s effects rest with
  | zero =>
      cases h
      exact ⟨rfl, [], .nil⟩
  | succ limit ih =>
      rw [effectsUpTo] at h
      cases he : effect? s with
      | none =>
          rw [he] at h
          cases h
          exact ⟨rfl, [], .nil⟩
      | some found =>
          obtain ⟨effect, behind⟩ := found
          obtain ⟨blanks, keyword, hne, hb, hk, rfl, rfl⟩ := effect?_eq_some he
          cases hmore : effectsUpTo limit behind with
          | mk more last =>
              simp only [he, hmore, Prod.mk.injEq] at h
              obtain ⟨rfl, rfl⟩ := h
              obtain ⟨rfl, keywords, hrow⟩ := ih hmore
              exact ⟨by simp, keyword :: keywords, by simpa using hrow.cons hne hb hk⟩

theorem effectsUpTo_append {keywords : List Text} {effects blanks : Text}
    (h : IsEffects keywords effects) (hb : ∀ c ∈ blanks, Text.isBlank c = true) (rest : Text)
    {limit : Nat} (hl : effects.length ≤ limit) :
    effectsUpTo limit (effects ++ (blanks ++ '{' :: rest)) = (effects, blanks ++ '{' :: rest) := by
  induction h generalizing limit with
  | nil =>
      cases limit with
      | zero => rfl
      | succ limit => simp [effectsUpTo, effect?_brace hb]
  | @cons space keyword more _ hne hs hk _ ih =>
      -- Every effect takes a character, so the length of the effects is limit enough.
      have hpos := List.length_pos_iff.mpr hne
      simp only [List.length_append] at hl
      cases limit with
      | zero => omega
      | succ limit =>
          have hshort : more.length ≤ limit := by omega
          simp only [List.append_assoc, effectsUpTo, effect?_append hne hs hk, ih hshort]

theorem closing?_eq_some_iff {s closing rest : Text} :
    closing? s = some (closing, rest) ↔ IsClosing closing ∧ s = closing ++ rest := by
  constructor
  · intro h
    rw [closing?.eq_def] at h
    split at h
    · rename_i a b c d behind
      split at h
      · rename_i hb
        cases h
        exact ⟨⟨[a, b, c, d], rfl, List.all_eq_true.mp hb, rfl⟩, rfl⟩
      · cases h
    · cases h
  · intro hparts
    obtain ⟨⟨blanks, hlen, hb, rfl⟩, rfl⟩ := hparts
    match blanks, hlen with
    | [a, b, c, d], _ =>
        have hall : [a, b, c, d].all Text.isBlank = true := List.all_eq_true.mpr hb
        simp only [List.cons_append, List.nil_append, closing?, if_pos hall]

theorem closing?_eq_none_iff {s : Text} :
    closing? s = none ↔ ∀ closing, IsClosing closing → ¬ closing <+: s := by
  constructor
  · intro h closing hc hparts
    obtain ⟨rest, rfl⟩ := hparts
    rw [closing?_eq_some_iff.mpr ⟨hc, rfl⟩] at h
    cases h
  · intro h
    cases hs : closing? s with
    | none => rfl
    | some found =>
        obtain ⟨hc, rfl⟩ := closing?_eq_some_iff.mp hs
        exact absurd (List.prefix_append _ _) (h _ hc)

theorem unclosed_iff {front rest : Text} :
    Unclosed front rest ↔ Scan.Silent closing? front rest := by
  simp only [Unclosed, Scan.Silent, closing?_eq_none_iff]

theorem IsClosing.length_eq {closing : Text} (h : IsClosing closing) : closing.length = 6 := by
  obtain ⟨blanks, hlen, -, rfl⟩ := h
  simp [hlen]

/-- A closing line reaches no further than the six characters behind it. -/
theorem unclosed_append_iff {front closing rest : Text} (h : closing.length = 6) :
    Unclosed front (closing ++ rest) ↔ Unclosed front closing := by
  have key : ∀ e : Text, ∀ line, IsClosing line →
      (line <+: e ++ (closing ++ rest) ↔ line <+: e ++ closing) := by
    intro e line hline
    rw [← List.append_assoc]
    constructor
    · intro hp
      apply List.prefix_of_prefix_length_le hp (List.prefix_append _ _)
      rw [hline.length_eq, List.length_append, h]
      omega
    · exact fun hp => hp.trans (List.prefix_append _ _)
  constructor
  · intro hu e he hs line hline hp
    exact hu e he hs line hline ((key e line hline).mpr hp)
  · intro hu e he hs line hline hp
    exact hu e he hs line hline ((key e line hline).mp hp)

theorem bodyAndClosing?_eq_some_iff {s body closing : Text} :
    bodyAndClosing? s = some (body, closing) ↔
      IsClosing closing ∧ Unclosed body closing ∧ body ++ closing <+: s := by
  induction s generalizing body with
  | nil =>
      constructor
      · intro h
        cases h
      · intro ⟨hc, _, hp⟩
        have hlen := hc.length_eq
        have hnil := List.prefix_nil.mp hp
        simp only [List.append_eq_nil_iff] at hnil
        simp [hnil.2] at hlen
  | cons c s ih =>
      rw [bodyAndClosing?]
      cases hs : closing? (c :: s) with
      | some found =>
          obtain ⟨line, rest⟩ := found
          obtain ⟨hline, hsplit⟩ := closing?_eq_some_iff.mp hs
          simp only [Option.some.injEq, Prod.mk.injEq]
          constructor
          · intro hparts
            obtain ⟨rfl, rfl⟩ := hparts
            exact ⟨hline, unclosed_iff.mpr (Scan.silent_nil _), ⟨rest, hsplit.symm⟩⟩
          · intro ⟨hc, hu, hp⟩
            cases body with
            | nil =>
                refine ⟨rfl, ?_⟩
                have hlen : line.length = closing.length := by
                  rw [hline.length_eq, hc.length_eq]
                exact (List.prefix_of_prefix_length_le ⟨rest, hsplit.symm⟩ hp
                  (Nat.le_of_eq hlen)).eq_of_length hlen
            | cons d body =>
                -- The line at the beginning would be a closing line inside the body.
                refine absurd ?_ (hu (d :: body) (List.cons_ne_nil d body)
                  (List.suffix_refl _) line hline)
                apply List.prefix_of_prefix_length_le ⟨rest, hsplit.symm⟩ hp
                rw [hline.length_eq, List.length_append, hc.length_eq]
                omega
      | none =>
          simp only [Option.map_eq_some_iff, Prod.mk.injEq]
          constructor
          · intro hparts
            obtain ⟨⟨inner, line⟩, hb, rfl, rfl⟩ := hparts
            obtain ⟨hc, hu, rest, rfl⟩ := ih.mp hb
            refine ⟨hc, ?_, ⟨rest, rfl⟩⟩
            rw [← @unclosed_append_iff _ _ rest hc.length_eq, unclosed_iff,
              Scan.silent_cons_iff, ← unclosed_iff, unclosed_append_iff hc.length_eq]
            exact ⟨by simpa using hs, hu⟩
          · intro ⟨hc, hu, rest, hp⟩
            cases body with
            | nil =>
                rw [closing?_eq_some_iff.mpr ⟨hc, hp.symm⟩] at hs
                cases hs
            | cons d body =>
                simp only [List.cons_append, List.cons.injEq] at hp
                obtain ⟨rfl, rfl⟩ := hp
                rw [unclosed_iff, Scan.silent_cons_iff, ← unclosed_iff] at hu
                exact ⟨(body, closing), ih.mpr ⟨hc, hu.2, ⟨rest, rfl⟩⟩, rfl, rfl⟩

theorem bodyAndClosing?_eq_none_iff {s : Text} :
    bodyAndClosing? s = none ↔ ∀ e closing, e <:+ s → IsClosing closing → ¬ closing <+: e := by
  induction s with
  | nil =>
      constructor
      · intro _ e closing hs hc hp
        rw [List.suffix_nil.mp hs, List.prefix_nil] at hp
        have hlen := hc.length_eq
        simp [hp] at hlen
      · intro _
        rfl
  | cons c s ih =>
      rw [bodyAndClosing?]
      cases hs : closing? (c :: s) with
      | some found =>
          obtain ⟨hline, hsplit⟩ := closing?_eq_some_iff.mp hs
          constructor
          · intro h
            cases h
          · intro h
            exact absurd ⟨found.2, hsplit.symm⟩ (h _ found.1 (List.suffix_refl _) hline)
      | none =>
          rw [Option.map_eq_none_iff, ih]
          constructor
          · intro h e closing he hc
            obtain rfl | he := List.suffix_cons_iff.mp he
            · exact closing?_eq_none_iff.mp hs closing hc
            · exact h e closing he hc
          · intro h e closing he hc
            exact h e closing (List.suffix_cons_iff.mpr (.inr he)) hc

/-- At a header the reader succeeds with the first closing line behind it. -/
theorem read?_header {declaration effects header : Text}
    (h : IsHeader declaration effects header) (rest : Text) :
    read? (header ++ rest) = (bodyAndClosing? rest).map fun (body, closing) =>
      { header, declaration, effects, body, text := header ++ body ++ closing } := by
  obtain ⟨⟨letters, hne, hl, rfl⟩, ⟨keywords, heffects⟩, blanks, hb, rfl⟩ := h
  have hstop : ∀ c ∈ ('{' :: rest).head?, Text.isBlank c = false := by
    intro c hc
    cases hc
    decide
  have hdeclaration := declaration?_append hne hl (effects ++ (blanks ++ '{' :: rest))
  have hread : readEffects (effects ++ (blanks ++ '{' :: rest)) =
      (effects, blanks ++ '{' :: rest) :=
    effectsUpTo_append heffects hb rest (by simp)
  have hbrace : Text.after? ['{'] ('{' :: rest) = some rest := Text.after?_append ['{'] rest
  rw [show testOpening ++ letters ++ emptyParameters ++ effects ++ blanks ++ ['{'] ++ rest =
    testOpening ++ letters ++ emptyParameters ++ (effects ++ (blanks ++ '{' :: rest)) by
      simp only [List.append_assoc, List.cons_append, List.nil_append]]
  simp only [read?, hdeclaration, hread, Option.bind_eq_bind, Option.bind_some,
    Text.takeWhile_run hb hstop, Text.dropWhile_run hb hstop, hbrace, Option.pure_def]
  cases bodyAndClosing? rest <;> rfl

theorem read?_sound {s : Text} {function : TestFunction} (h : read? s = some function) :
    function.Grammatical ∧ function.text <+: s := by
  simp only [read?, Option.bind_eq_bind, Option.bind_eq_some_iff] at h
  obtain ⟨⟨declaration, signature⟩, hd, h⟩ := h
  obtain ⟨rfl, hdeclaration⟩ := declaration?_eq_some hd
  cases he : readEffects signature with
  | mk effects opening =>
      obtain ⟨rfl, heffects⟩ := effectsUpTo_sound he
      simp only [he, Text.after?_eq_some_iff] at h
      obtain ⟨inside, hbrace, ⟨body, closing⟩, hbody, h⟩ := h
      cases h
      obtain ⟨hc, hu, rest, rfl⟩ := bodyAndClosing?_eq_some_iff.mp hbody
      refine ⟨⟨⟨hdeclaration, heffects, _, ?_, rfl⟩, closing, hc, hu, rfl⟩, rest, ?_⟩
      · exact fun c hc => List.all_eq_true.mp List.all_takeWhile c hc
      · calc declaration ++ effects ++ opening.takeWhile Text.isBlank ++ ['{'] ++ body ++
              closing ++ rest
            = declaration ++ (effects ++ (opening.takeWhile Text.isBlank ++
                (['{'] ++ (body ++ closing ++ rest)))) := by simp only [List.append_assoc]
          _ = declaration ++ (effects ++ opening) := by
            rw [← hbrace, List.takeWhile_append_dropWhile]

theorem read?_eq_some_iff {s : Text} {function : TestFunction} :
    read? s = some function ↔ function.Grammatical ∧ function.text <+: s := by
  constructor
  · exact read?_sound
  · intro hparts
    obtain ⟨⟨hheader, closing, hc, hu, htext⟩, rest, rfl⟩ := hparts
    have hbody : bodyAndClosing? (function.body ++ (closing ++ rest)) =
        some (function.body, closing) :=
      bodyAndClosing?_eq_some_iff.mpr ⟨hc, hu, rest, by simp⟩
    rw [htext, List.append_assoc, List.append_assoc, read?_header hheader, hbody]
    simp only [Option.map_some, ← htext]

theorem IsHeader.ne_nil {declaration effects header : Text}
    (h : IsHeader declaration effects header) : header ≠ [] := by
  obtain ⟨-, -, blanks, -, rfl⟩ := h
  simp

theorem Grammatical.text_ne_nil {function : TestFunction} (h : function.Grammatical) :
    function.text ≠ [] := by
  obtain ⟨hheader, closing, -, -, htext⟩ := h
  have := hheader.ne_nil
  simp [htext, this]

theorem read?_lawful : Scan.Lawful read? TestFunction.text where
  text_ne_nil h := (read?_sound h).1.text_ne_nil
  text_prefix h := (read?_sound h).2

end StagedMocks.TestFunction
