import StagedMocks.Statement
import StagedMocks.Proofs.Scan
import StagedMocks.Proofs.Occurrence

/-!
The readers of legacy statements against a grammar. Both read one of their openings, the
shortest argument on the line and its end, so that a text holds a statement exactly where
an opening is followed by an argument's end before the line does. What a reader takes behind
the argument's end is its own affair and is a parameter here.
-/
namespace StagedMocks.Statement

theorem argumentEnd_eq : argumentEnd = ['"', ')'] := rfl

theorem argument?_end (rest : Text) : argument? (argumentEnd ++ rest) = some ([], rest) := rfl

theorem argument?_cons {c : Char} {s : Text} (h : ¬ argumentEnd <+: c :: s) :
    argument? (c :: s) = if c = '\n' then none
      else (argument? s).map fun (argument, rest) => (c :: argument, rest) := by
  rw [argument?.eq_3]
  intro rest hc hs
  subst hc hs
  exact h ⟨rest, rfl⟩

/-- An argument ends where its end stands for the first time. -/
theorem argument?_eq_some_iff {s argument rest : Text} :
    argument? s = some (argument, rest) ↔
      '\n' ∉ argument ∧ ¬ argumentEnd <:+: argument ∧ s = argument ++ (argumentEnd ++ rest) := by
  induction s generalizing argument with
  | nil => simp [argument?, argumentEnd_eq]
  | cons c s ih =>
      by_cases hend : argumentEnd <+: c :: s
      · obtain ⟨behind, hs⟩ := hend
        rw [← hs, argument?_end]
        constructor
        · intro h
          cases h
          exact ⟨by simp, by simp [argumentEnd_eq], rfl⟩
        · intro ⟨_, hinner, hsplit⟩
          obtain ⟨t, ht, hb⟩ | ⟨t, hne, ht, hb⟩ := Text.append_eq_append_cases hsplit
          · exact absurd ⟨[], t, by simp [ht]⟩ hinner
          · -- The end overlaps itself only if the argument is empty.
            cases argument with
            | nil =>
                rw [List.nil_append] at hsplit
                rw [List.append_cancel_left hsplit]
            | cons d argument =>
                rw [argumentEnd_eq] at ht hb
                cases argument with
                | nil =>
                    cases ht
                    cases hb
                | cons d' argument =>
                    cases argument with
                    | nil =>
                        cases ht
                        exact absurd rfl hne
                    | cons d'' argument => cases ht
      · rw [argument?_cons hend]
        by_cases hc : c = '\n'
        · rw [if_pos hc]
          constructor
          · intro h
            cases h
          · intro ⟨hline, _, hsplit⟩
            cases argument with
            | nil => exact absurd ⟨rest, hsplit.symm⟩ hend
            | cons d argument =>
                rw [List.cons_append, List.cons.injEq] at hsplit
                rw [← hsplit.1, hc] at hline
                simp at hline
        · rw [if_neg hc, Option.map_eq_some_iff]
          constructor
          · intro ⟨⟨inner, behind⟩, hinner, heq⟩
            simp only [Prod.mk.injEq] at heq
            obtain ⟨rfl, rfl⟩ := heq
            obtain ⟨hline, hno, rfl⟩ := ih.mp hinner
            refine ⟨?_, ?_, rfl⟩
            · simp [hline, Ne.symm hc]
            · intro hin
              obtain hp | hin := List.infix_cons_iff.mp hin
              · exact hend (hp.trans (by simp))
              · exact hno hin
          · intro ⟨hline, hno, hsplit⟩
            cases argument with
            | nil => exact absurd ⟨rest, hsplit.symm⟩ hend
            | cons d argument =>
                rw [List.cons_append, List.cons.injEq] at hsplit
                obtain ⟨rfl, hsplit⟩ := hsplit
                refine ⟨(argument, rest), ih.mpr ⟨?_, ?_, hsplit⟩, rfl⟩
                · exact fun hin => hline (List.mem_cons_of_mem c hin)
                · exact fun hin => hno (List.infix_cons_iff.mpr (.inr hin))

theorem exists_argument {argument : Text} (h : '\n' ∉ argument) (rest : Text) :
    ∃ first behind, argument? (argument ++ (argumentEnd ++ rest)) = some (first, behind) := by
  induction argument with
  | nil => exact ⟨[], rest, rfl⟩
  | cons c argument ih =>
      rw [List.mem_cons, not_or] at h
      obtain ⟨first, behind, hread⟩ := ih h.2
      by_cases hend : argumentEnd <+: c :: (argument ++ (argumentEnd ++ rest))
      · obtain ⟨behind, hs⟩ := hend
        exact ⟨[], behind, by rw [List.cons_append, ← hs, argument?_end]⟩
      · refine ⟨c :: first, behind, ?_⟩
        rw [List.cons_append, argument?_cons hend, if_neg (Ne.symm h.1), hread]
        rfl

theorem argumentEnd_infix_append {x y : Text} (h : argumentEnd <:+: x ++ y) :
    argumentEnd <:+: x ∨ argumentEnd <:+: y ∨ y.head? = some ')' := by
  obtain h | h | ⟨v, w, hv, hw, heq, _, z, rfl⟩ := Text.infix_append_iff.mp h
  · exact .inl h
  · exact .inr (.inl h)
  · refine .inr (.inr ?_)
    rw [argumentEnd_eq] at heq
    cases v with
    | nil => exact absurd rfl hv
    | cons c v =>
        cases w with
        | nil => exact absurd rfl hw
        | cons d w =>
            cases v with
            | nil =>
                cases heq
                rfl
            | cons c' v => simp at heq

theorem argumentEnd_infix_cons {c : Char} {s : Text} (hc : c ≠ '"')
    (h : argumentEnd <:+: c :: s) : argumentEnd <:+: s := by
  obtain ⟨rest, hrest⟩ | h := List.infix_cons_iff.mp h
  · exact absurd (List.cons.inj hrest).1.symm hc
  · exact h

/-- An argument in front of whose end a quote stands holds all that stands before the quote. -/
theorem prefix_argument {argument rest x z : Text} (hno : ¬ argumentEnd <:+: x)
    (h : argument ++ (argumentEnd ++ rest) = x ++ '"' :: z) :
    x ++ ['"'] <+: argument ++ ['"'] := by
  obtain ⟨t, rfl, ht⟩ | ⟨t, hne, rfl, ht⟩ := Text.append_eq_append_cases h
  · rw [argumentEnd_eq, List.cons_append, List.cons_append, List.nil_append] at ht
    cases t with
    | nil => simp
    | cons c t =>
        rw [List.cons_append, List.cons.injEq] at ht
        obtain ⟨rfl, ht⟩ := ht
        cases t with
        | nil => simp at ht
        | cons d t =>
            -- Then the end of the argument would stand inside `x`.
            rw [List.cons_append, List.cons.injEq] at ht
            obtain ⟨rfl, _⟩ := ht
            exact absurd ⟨argument, t, by simp [argumentEnd_eq]⟩ hno
  · cases t with
    | nil => exact absurd rfl hne
    | cons c t =>
        rw [List.cons_append, List.cons.injEq] at ht
        obtain ⟨rfl, _⟩ := ht
        exact ⟨t ++ ['"'], by simp⟩

/-- The text of a statement with one of some openings, up to an argument's end. -/
def Spells (openings : List Text) (part : Text) : Prop :=
  ∃ opening ∈ openings, ∃ argument : Text, '\n' ∉ argument ∧
    part = opening ++ (argument ++ argumentEnd)

/-- The contract of a reader of statements. Behind the end of the argument it takes what
`lineEnd` says of the rest. -/
structure Reads (read? : Text → Option Statement) (openings : List Text)
    (lineEnd : Text → Text) : Prop where
  opening_ne_nil : ∀ opening ∈ openings, opening ≠ []
  lineEnd_prefix : ∀ rest, lineEnd rest <+: rest
  lineEnd_again : ∀ rest rest', lineEnd rest ≠ [] → lineEnd (lineEnd rest ++ rest') = lineEnd rest
  eq_some_iff : ∀ {s : Text} {a : Statement}, read? s = some a ↔
    a.opening ∈ openings ∧ '\n' ∉ a.argument ∧ ¬ argumentEnd <:+: a.argument ∧
      ∃ rest, a.closing = argumentEnd ++ lineEnd rest ∧
        s = a.opening ++ (a.argument ++ (argumentEnd ++ rest))

section Reads

variable {read? : Text → Option Statement} {openings : List Text} {lineEnd : Text → Text}

theorem Reads.lawful (reads : Reads read? openings lineEnd) : Scan.Lawful read? text where
  text_ne_nil h := by
    have hopening := reads.opening_ne_nil _ (reads.eq_some_iff.mp h).1
    simp [text, hopening]
  text_prefix h := by
    obtain ⟨_, _, _, rest, hclosing, rfl⟩ := reads.eq_some_iff.mp h
    obtain ⟨behind, hbehind⟩ := reads.lineEnd_prefix rest
    refine ⟨behind, ?_⟩
    rw [text, hclosing]
    simp only [List.append_assoc, hbehind]

theorem Reads.eq_none_iff (reads : Reads read? openings lineEnd) {s : Text} :
    read? s = none ↔ ∀ part, Spells openings part → ¬ part <+: s := by
  constructor
  · intro h part ⟨opening, hopening, argument, hline, hpart⟩ ⟨rest, hs⟩
    rw [hpart, List.append_assoc, List.append_assoc] at hs
    obtain ⟨first, behind, hfirst⟩ := exists_argument hline rest
    obtain ⟨hline, hno, hsplit⟩ := argument?_eq_some_iff.mp hfirst
    rw [hsplit] at hs
    rw [reads.eq_some_iff (a := ⟨opening, first, argumentEnd ++ lineEnd behind⟩) |>.mpr
      ⟨hopening, hline, hno, behind, rfl, hs.symm⟩] at h
    cases h
  · intro h
    cases hs : read? s with
    | none => rfl
    | some a =>
        obtain ⟨hopening, hline, _, rest, _, rfl⟩ := reads.eq_some_iff.mp hs
        refine absurd ⟨rest, ?_⟩ (h _ ⟨_, hopening, _, hline, rfl⟩)
        simp only [List.append_assoc]

/-- Nothing is read at a position of `front` exactly if no statement begins there. -/
theorem Reads.silent_iff (reads : Reads read? openings lineEnd) {front rest : Text} :
    Scan.Silent read? front rest ↔
      ∀ part, Spells openings part → ∀ e, e ≠ [] → e <:+ front → ¬ part <+: e ++ rest := by
  simp only [Scan.Silent, reads.eq_none_iff]
  constructor
  · intro h part hpart e he hs
    exact h e he hs part hpart
  · intro h e he hs part hpart
    exact h part hpart e he hs

theorem Reads.spells_ne_nil (reads : Reads read? openings lineEnd) {part : Text}
    (h : Spells openings part) : part ≠ [] := by
  obtain ⟨opening, hopening, argument, _, rfl⟩ := h
  simp [reads.opening_ne_nil _ hopening]

theorem Reads.not_infix_of_silent (reads : Reads read? openings lineEnd) {front rest part : Text}
    (h : Scan.Silent read? front rest) (hpart : Spells openings part) : ¬ part <:+: front := by
  intro hin
  obtain ⟨e, hp, hs⟩ := List.infix_iff_prefix_suffix.mp hin
  refine reads.silent_iff.mp h part hpart e ?_ hs (hp.trans (List.prefix_append _ _))
  intro he
  rw [he, List.prefix_nil] at hp
  exact reads.spells_ne_nil hpart hp

/-- What a reader has read stands there as well with another rest behind it, unless that rest
makes it take more. -/
theorem Reads.eq_some_of_rest (reads : Reads read? openings lineEnd) {rest rest' : Text}
    {a : Statement} (h : read? (a.text ++ rest) = some a)
    (hend : lineEnd rest = [] → lineEnd rest' = []) : read? (a.text ++ rest') = some a := by
  obtain ⟨hopening, hline, hno, behind, hclosing, hs⟩ := reads.eq_some_iff.mp h
  have hbehind : lineEnd behind ++ rest = behind := by
    rw [text, hclosing] at hs
    simp only [List.append_assoc] at hs
    exact List.append_cancel_left (List.append_cancel_left (List.append_cancel_left hs))
  refine reads.eq_some_iff.mpr ⟨hopening, hline, hno, lineEnd behind ++ rest', ?_, ?_⟩
  · by_cases hnil : lineEnd behind = []
    · rw [hnil, List.nil_append] at hbehind
      subst hbehind
      rw [hclosing, hnil, List.nil_append, hend hnil]
    · rw [hclosing, reads.lineEnd_again behind rest' hnil]
  · rw [text, hclosing]
    simp only [List.append_assoc]

end Reads

theorem firstArgument?_eq_some_iff {read? : Text → Option Statement} {body argument : Text} :
    firstArgument? read? body = some argument ↔
      ∃ before a behind, Scan.first? read? text body = some (before, a, behind) ∧
        a.argument = argument ∧ argument ≠ [] := by
  simp only [firstArgument?, Option.bind_eq_bind, Option.bind_eq_some_iff]
  constructor
  · intro ⟨⟨before, a, behind⟩, hfirst, h⟩
    by_cases hnil : a.argument = []
    · simp [hnil] at h
    · simp only [List.isEmpty_iff, if_neg hnil, Option.some.injEq] at h
      exact ⟨before, a, behind, hfirst, h, h ▸ hnil⟩
  · intro ⟨before, a, behind, hfirst, h, hne⟩
    refine ⟨(before, a, behind), hfirst, ?_⟩
    simp [h, hne]

theorem staging?_reads : Reads staging? [stagingOpening] fun _ => [] where
  opening_ne_nil := by decide
  lineEnd_prefix _ := List.nil_prefix
  lineEnd_again _ _ h := absurd rfl h
  eq_some_iff {s a} := by
    simp only [staging?, Option.bind_eq_bind, Option.bind_eq_some_iff, Text.after?_eq_some_iff,
      List.mem_singleton, Option.pure_def, Option.some.injEq]
    constructor
    · intro ⟨quoted, hs, ⟨argument, rest⟩, hargument, ha⟩
      obtain ⟨hline, hno, rfl⟩ := argument?_eq_some_iff.mp hargument
      subst ha
      exact ⟨rfl, hline, hno, rest, by simp, hs⟩
    · intro ⟨hopening, hline, hno, rest, hclosing, hs⟩
      refine ⟨_, hopening ▸ hs, (a.argument, rest),
        argument?_eq_some_iff.mpr ⟨hline, hno, rfl⟩, ?_⟩
      obtain ⟨opening, argument, closing⟩ := a
      simp only at hopening hclosing
      rw [hopening, hclosing, List.append_nil]

/-- The openings of an assertion, without the accessor and with it. -/
def assertionOpenings : List Text :=
  [assertionOpening ++ [] ++ expectedOpening, assertionOpening ++ accessor ++ expectedOpening]

/-- The only quote of an opening is its last character. -/
theorem assertionOpenings_quoted : ∀ opening ∈ assertionOpenings,
    opening = opening.dropLast ++ ['"'] ∧ '"' ∉ opening.dropLast := by decide

def lineFeed (rest : Text) : Text :=
  if rest.head? = some '\n' then ['\n'] else []

theorem lineFeed_prefix (rest : Text) : lineFeed rest <+: rest := by
  cases rest with
  | nil => exact List.nil_prefix
  | cons c rest =>
      by_cases hc : c = '\n'
      · simp [lineFeed, hc]
      · simp [lineFeed, hc]

theorem assertion?_reads : Reads assertion? assertionOpenings lineFeed where
  opening_ne_nil := by decide
  lineEnd_prefix := lineFeed_prefix
  lineEnd_again rest rest' h := by
    by_cases hc : rest.head? = some '\n'
    · simp [lineFeed, hc]
    · exact absurd (if_neg hc) h
  eq_some_iff {s a} := by
    simp only [assertion?, Option.bind_eq_bind, Option.bind_eq_some_iff, Text.after?_eq_some_iff,
      assertionOpenings, List.mem_cons, List.not_mem_nil, or_false, Option.pure_def,
      Option.some.injEq]
    constructor
    · intro ⟨subject, hs, quoted, hquoted, ⟨argument, rest⟩, hargument, ha⟩
      obtain ⟨hline, hno, rfl⟩ := argument?_eq_some_iff.mp hargument
      subst ha
      cases hnamed : Text.after? accessor subject with
      | some behind =>
          obtain rfl := Text.after?_eq_some_iff.mp hnamed
          simp only [hnamed] at hquoted ⊢
          refine ⟨.inr trivial, hline, hno, rest, rfl, ?_⟩
          rw [hs, hquoted]
          simp only [List.append_assoc]
      | none =>
          simp only [hnamed] at hquoted ⊢
          refine ⟨.inl trivial, hline, hno, rest, rfl, ?_⟩
          rw [hs, hquoted]
          simp only [List.append_assoc, List.nil_append]
    · obtain ⟨opening, argument, closing⟩ := a
      intro ⟨hopening, hline, hno, rest, hclosing, hs⟩
      simp only at hopening hline hno hclosing hs
      have hargument : argument? (argument ++ (argumentEnd ++ rest)) = some (argument, rest) :=
        argument?_eq_some_iff.mpr ⟨hline, hno, rfl⟩
      obtain rfl | rfl := hopening
      · -- The accessor and what stands there instead start with different characters.
        have hnone : Text.after? accessor
            (expectedOpening ++ (argument ++ (argumentEnd ++ rest))) = none := rfl
        refine ⟨expectedOpening ++ (argument ++ (argumentEnd ++ rest)),
          by rw [hs]; simp only [List.append_assoc, List.nil_append], ?_⟩
        rw [hnone]
        exact ⟨_, rfl, (argument, rest), hargument, by rw [hclosing]; rfl⟩
      · refine ⟨accessor ++ (expectedOpening ++ (argument ++ (argumentEnd ++ rest))),
          by rw [hs]; simp only [List.append_assoc], ?_⟩
        rw [Text.after?_append]
        exact ⟨_, rfl, (argument, rest), hargument, by rw [hclosing]; rfl⟩

/-- The only quote of an opening is its last character, so no opening reaches beyond a text that
ends in a quote. -/
theorem silent_of_no_opening {x : Text}
    (h : ∀ opening ∈ assertionOpenings, ¬ opening <:+: x ++ ['"']) (rest : Text) :
    Scan.Silent assertion? (x ++ ['"']) rest := by
  rw [assertion?_reads.silent_iff]
  intro part ⟨opening, hopening, argument, _, hpart⟩ e he hs hp
  rw [hpart] at hp
  obtain hin | ⟨w, hw, _, hsplit⟩ :=
    Text.prefix_append_iff.mp ((List.prefix_append opening _).trans hp)
  · exact h opening hopening (hin.isInfix.trans hs.isInfix)
  · obtain ⟨z, hz⟩ := hs
    refine (assertionOpenings_quoted opening hopening).2 ?_
    rw [hsplit, List.dropLast_append_of_ne_nil hw]
    exact List.mem_append_left _ (Text.last_mem_of_append_eq hz.symm he)

/-- A statement that begins in `x` and reaches what stands behind may end anywhere on the line:
exchanging what stands behind for a text with an argument's end on the line leaves a statement. -/
theorem exists_spells_exchange {openings : List Text} {next x rest line rest' part : Text}
    (hapart : ∀ opening ∈ openings, Text.Apart opening next) (hx : x ≠ [])
    (hline : '\n' ∉ line) (hpart : Spells openings part) (hp : part <+: x ++ (next ++ rest)) :
    ∃ part', Spells openings part' ∧ part' <+: x ++ (line ++ (argumentEnd ++ rest')) := by
  obtain ⟨opening, hopening, argument, hargument, rfl⟩ := hpart
  obtain ⟨q, rfl⟩ := (hapart opening hopening).prefix_left hx
    ((List.prefix_append _ _).trans hp)
  rw [List.append_assoc, List.prefix_append_right_inj] at hp
  obtain ⟨t, rfl⟩ | ⟨w, hw, _, hq⟩ := Text.prefix_append_iff.mp hp
  · refine ⟨_, ⟨opening, hopening, argument, hargument, rfl⟩, ?_⟩
    simp only [List.append_assoc, List.prefix_append_right_inj, List.prefix_append]
  · refine ⟨_, ⟨opening, hopening, q ++ line, ?_, rfl⟩, rest', by simp only [List.append_assoc]⟩
    have hqline : '\n' ∉ q := by
      intro hmem
      have hmem : '\n' ∈ argument ++ argumentEnd := hq ▸ List.mem_append_left w hmem
      obtain hmem | hmem := List.mem_append.mp hmem
      · exact hargument hmem
      · exact absurd hmem (by decide)
    simp [hqline, hline]

end StagedMocks.Statement
