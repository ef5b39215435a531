import StagedMocks.Proofs.Migration.Sites

/-!
A body never begins its own migration. In front of the first statement both are equal. Where
that is the staging, they differ in the next character. Where it is an assertion, it goes, and
what is left is shorter than the body, unless the call keeps a URL that holds the staging's
opening, which the body would then have before its first staging.
-/
namespace StagedMocks.Sites

open Statement

variable {body : Text} (sites : Sites body)

/-- If no assertion begins in front of the staging, the migrated body goes on with the call's
first character there. -/
theorem replaceFirst_called_front
    (h : Scan.Silent assertion? sites.front (sites.staging ++ sites.back)) :
    ∃ rest, Scan.replaceFirst assertion? text [] sites.called = sites.front ++ 't' :: rest := by
  obtain ⟨rest, hrest⟩ : ∃ rest, sites.call ++ sites.back = 't' :: rest := by
    rw [call_eq]
    exact ⟨_, rfl⟩
  have hfront := @silent_exchange _ sites _ _ _ assertion?_reads assertion_apart_call _ [] h
    sites.back
  rw [List.nil_append, hrest] at hfront
  have hhead : assertion? ('t' :: rest) = none := rfl
  have hsilent : Scan.Silent assertion? (sites.front ++ ['t']) rest := by
    rw [Scan.silent_append_iff, Scan.silent_cons_iff]
    exact ⟨hfront, hhead, Scan.silent_nil rest⟩
  obtain ⟨behind, hbehind⟩ := Scan.replaceFirst_silent assertion?_reads.lawful hsilent []
  rw [List.append_assoc, List.append_assoc] at hbehind
  exact ⟨behind, by rw [called, hrest]; exact hbehind⟩

section Length

theorem length_staging : sites.staging.length = sites.payload.length + 38 := by
  have hopening : stagingOpening.length = 36 := rfl
  have hend : argumentEnd.length = 2 := rfl
  simp only [staging, List.length_append, hopening, hend]
  omega

theorem length_call :
    sites.call.length = sites.url.length + sites.payload.length + 57 := by
  have hopening : callOpening.length = 16 := rfl
  have hmiddle : callMiddle.length = 37 := rfl
  have hclosing : callClosing.length = 4 := rfl
  simp only [call_eq, List.length_append, hopening, hmiddle, hclosing]
  omega

theorem length_assertion :
    sites.url.length + 37 ≤ sites.assertion.text.length := by
  obtain ⟨hopening, _, _, lineEnd, _, hclosing⟩ := sites.assertion_parts
  have hlong : ∀ opening ∈ assertionOpenings, 35 ≤ opening.length := by decide
  have hend : argumentEnd.length = 2 := rfl
  have := hlong _ hopening
  simp only [assertion_text, hclosing, List.length_append, hend]
  omega

end Length

/-- A staging's opening in front of the first staging stands on a line of its own. -/
theorem line_feed_of_opening {y v : Text} (h : sites.front = y ++ (stagingOpening ++ v)) :
    '\n' ∈ v := by
  refine Decidable.byContradiction fun hv => ?_
  obtain ⟨_, hsilent, hpayload, _⟩ := sites.staging_spec
  have hline : '\n' ∉ v ++ (stagingOpening ++ sites.payload) := by
    have hopening : '\n' ∉ stagingOpening := by decide
    simp [hv, hopening, hpayload]
  have hne : stagingOpening ++ v ≠ [] := by
    intro hnil
    exact absurd (List.append_eq_nil_iff.mp hnil).1 (by decide)
  refine staging?_reads.silent_iff.mp hsilent _ ⟨stagingOpening, by simp, _, hline, rfl⟩
    (stagingOpening ++ v) hne (h ▸ List.suffix_append _ _) ⟨sites.back, ?_⟩
  rw [staging_append]
  simp only [List.append_assoc]

section IntoStaging

variable {q : Text}

theorem line_of_intoStaging (hq : q ++ stagingOpening <+: sites.url ++ ['"']) : '\n' ∉ q := by
  intro hmem
  have hmem := hq.subset (List.mem_append_left stagingOpening hmem)
  obtain hmem | hmem := List.mem_append.mp hmem
  · exact sites.assertion_parts.2.1 hmem
  · exact absurd hmem (by decide)

theorem first?_called_intoStaging
    (hfront : sites.front = sites.before ++ (sites.assertion.opening ++ q)) {first rest : Text}
    (hread : argument? (q ++ (sites.call ++ sites.back)) = some (first, rest)) :
    ∃ a behind, rest = lineFeed rest ++ behind ∧
      Scan.first? assertion? text sites.called = some (sites.before, a, behind) := by
  obtain ⟨hopening, _⟩ := sites.assertion_parts
  obtain ⟨_, hsilent, _⟩ := sites.assertion_spec
  obtain ⟨hline, hno, hsplit⟩ := argument?_eq_some_iff.mp hread
  obtain ⟨behind, hbehind⟩ := lineFeed_prefix rest
  refine ⟨⟨sites.assertion.opening, first, argumentEnd ++ lineFeed rest⟩, behind,
    hbehind.symm, ?_⟩
  have htext : text ⟨sites.assertion.opening, first, argumentEnd ++ lineFeed rest⟩ ++ behind =
      (sites.assertion.opening ++ q) ++ (sites.call ++ sites.back) := by
    simp only [text, List.append_assoc, hbehind, hsplit]
  rw [Scan.first?_eq_some_iff assertion?_reads.lawful, htext]
  refine ⟨?_, ?_, ?_⟩
  · rw [called, hfront, List.append_assoc]
  · have hrest := sites.parts_eq
    rw [hfront, List.append_assoc] at hrest
    rw [List.append_cancel_left hrest] at hsilent
    exact sites.silent_exchange assertion?_reads assertion_apart_call hsilent _
  · exact assertion?_reads.eq_some_iff.mpr ⟨hopening, hline, hno, rest, rfl,
      by rw [List.append_assoc, hsplit]⟩

theorem open_of_intoStaging (hq : q ++ stagingOpening <+: sites.url ++ ['"']) :
    ¬ argumentEnd <:+: q := by
  have hprefix : q <+: sites.url := by
    refine List.prefix_of_prefix_length_le ((List.prefix_append q _).trans hq)
      (List.prefix_append _ _) ?_
    have hlen := hq.length_le
    have hopening : stagingOpening.length = 36 := rfl
    simp only [List.length_append, List.length_singleton, hopening] at hlen
    omega
  intro hin
  exact sites.assertion_parts.2.2.1 (hin.trans hprefix.isInfix)

/-- If the URL starts with a parenthesis, the argument ends in front of it, and all of the call
from there on stays. -/
theorem replaceFirst_called_paren
    (hfront : sites.front = sites.before ++ (sites.assertion.opening ++ q))
    (hq : q ++ stagingOpening <+: sites.url ++ ['"']) {u : Text} (hurl : sites.url = ')' :: u) :
    Scan.replaceFirst assertion? text [] sites.called = sites.before ++
      (u ++ (callMiddle ++ (sites.payload ++ (callClosing ++ sites.back)))) := by
  have hread : argument? (q ++ (sites.call ++ sites.back)) = some (q ++ callOpening.dropLast,
      u ++ (callMiddle ++ (sites.payload ++ (callClosing ++ sites.back)))) := by
    have hword : callOpening ++ [')'] = callOpening.dropLast ++ argumentEnd := by decide
    have hopening : '\n' ∉ callOpening.dropLast := by decide
    rw [argument?_eq_some_iff]
    refine ⟨by simp [sites.line_of_intoStaging hq, hopening], ?_, ?_⟩
    · intro hin
      obtain hin | hin | hin := argumentEnd_infix_append hin
      · exact sites.open_of_intoStaging hq hin
      · have hquote : '"' ∈ argumentEnd := by decide
        exact absurd (hin.subset hquote) (by decide)
      · exact absurd hin (by decide)
    · rw [call_eq, hurl]
      simp only [List.append_assoc, List.cons_append]
      rw [← List.append_assoc callOpening.dropLast, ← hword, List.append_assoc,
        List.singleton_append]
  obtain ⟨a, behind, hrest, hfirst⟩ := sites.first?_called_intoStaging hfront hread
  have hfeed : lineFeed (u ++ (callMiddle ++ (sites.payload ++ (callClosing ++ sites.back)))) =
      [] := by
    have hline := sites.assertion_parts.2.1
    rw [hurl] at hline
    cases u with
    | nil => rfl
    | cons c u =>
        have hc : c ≠ '\n' := by
          intro hc
          simp [hc] at hline
        simp [lineFeed, hc]
  rw [hfeed, List.nil_append] at hrest
  rw [Scan.replaceFirst_eq hfirst, ← hrest, List.nil_append]

/-- A URL that stays holds the staging's opening, which would then stand before the staging. -/
theorem not_prefix_of_paren
    (hfront : sites.front = sites.before ++ (sites.assertion.opening ++ q))
    (hq : q ++ stagingOpening <+: sites.url ++ ['"']) {u : Text} (hurl : sites.url = ')' :: u) :
    ¬ body <+: Scan.replaceFirst assertion? text [] sites.called := by
  rw [sites.replaceFirst_called_paren hfront hq hurl]
  intro hp
  obtain ⟨hopening, _⟩ := sites.assertion_parts
  have hline := sites.line_of_intoStaging hq
  obtain ⟨q', rfl, hq'⟩ : ∃ q', q = ')' :: q' ∧ q' ++ stagingOpening <+: u ++ ['"'] := by
    rw [hurl] at hq
    obtain ⟨z, hz⟩ := hq
    cases q with
    | nil => exact absurd (List.cons.inj hz).1 (by decide)
    | cons c q' =>
        simp only [List.cons_append, List.cons.injEq] at hz
        exact ⟨q', by rw [hz.1], z, hz.2⟩
  have hkept : q' ++ stagingOpening <+:
      u ++ (callMiddle ++ (sites.payload ++ (callClosing ++ sites.back))) := by
    have hmiddle : callMiddle = ['"'] ++ callMiddle.tail := by decide
    rw [hmiddle, List.append_assoc, ← List.append_assoc u]
    exact hq'.trans (List.prefix_append _ _)
  have hbody : sites.front ++ (sites.staging ++ sites.back) <+: sites.before ++
      (u ++ (callMiddle ++ (sites.payload ++ (callClosing ++ sites.back)))) := by
    rw [← sites.staging_spec.1]
    exact hp
  rw [hfront, List.append_assoc, List.prefix_append_right_inj] at hbody
  have hin : q' ++ stagingOpening <+: sites.assertion.opening ++ ')' :: q' := by
    refine List.prefix_of_prefix_length_le hkept ((List.prefix_append _ _).trans hbody) ?_
    have hlong : ∀ opening ∈ assertionOpenings, 35 ≤ opening.length := by decide
    have hlen := hlong _ hopening
    have hstaging : stagingOpening.length = 36 := rfl
    simp only [List.length_append, List.length_cons, hstaging]
    omega
  obtain ⟨v, hv⟩ := hin
  have hvline : '\n' ∈ v := by
    refine sites.line_feed_of_opening (y := sites.before ++ q') ?_
    rw [hfront, ← hv]
    simp only [List.append_assoc]
  have hmem : '\n' ∈ sites.assertion.opening ++ ')' :: q' := hv ▸ List.mem_append_right _ hvline
  obtain hmem | hmem := List.mem_append.mp hmem
  · have hplain : ∀ opening ∈ assertionOpenings, '\n' ∉ opening := by decide
    exact hplain _ hopening hmem
  · exact hline hmem

/-- If the URL starts otherwise, no argument's end stands in the call before the payload. -/
theorem open_call (hq : q ++ stagingOpening <+: sites.url ++ ['"'])
    (hurl : sites.url.head? ≠ some ')') :
    ¬ argumentEnd <:+: q ++ (callOpening ++ (sites.url ++ callMiddle.dropLast)) := by
  have hopening : ¬ argumentEnd <:+: callOpening := by
    rw [← Text.occursIn_iff]
    decide
  have hmiddle : ¬ argumentEnd <:+: callMiddle.dropLast := by
    rw [← Text.occursIn_iff]
    decide
  intro hin
  obtain hin | hin | hin := argumentEnd_infix_append hin
  · exact sites.open_of_intoStaging hq hin
  · obtain hin | hin | hin := argumentEnd_infix_append hin
    · exact hopening hin
    · obtain hin | hin | hin := argumentEnd_infix_append hin
      · exact sites.assertion_parts.2.2.1 hin
      · exact hmiddle hin
      · exact absurd hin (by decide)
    · cases hnil : sites.url with
      | nil =>
          rw [hnil] at hin
          exact absurd hin (by decide)
      | cons c u =>
          rw [hnil] at hin hurl
          exact hurl hin
  · cases hin

/-- If the URL starts otherwise, all of the call up to the payload goes with the assertion. -/
theorem not_prefix_of_open
    (hfront : sites.front = sites.before ++ (sites.assertion.opening ++ q))
    (hq : q ++ stagingOpening <+: sites.url ++ ['"']) (hurl : sites.url.head? ≠ some ')') :
    ¬ body <+: Scan.replaceFirst assertion? text [] sites.called := by
  have hline : '\n' ∉ q ++ sites.callUpTo sites.payload := by
    rw [List.mem_append, not_or]
    exact ⟨sites.line_of_intoStaging hq, sites.call_line⟩
  obtain ⟨first, rest, hread⟩ := exists_argument hline (')' :: ')' :: sites.back)
  rw [List.append_assoc, ← call_append] at hread
  obtain ⟨a, behind, hrest, hfirst⟩ := sites.first?_called_intoStaging hfront hread
  obtain ⟨_, _, hsplit⟩ := argument?_eq_some_iff.mp hread
  have hkept : (q ++ (callOpening ++ (sites.url ++ callMiddle.dropLast))) ++ ['"'] <+:
      first ++ ['"'] := by
    have hword : callMiddle.dropLast ++ ['"'] = callMiddle := by decide
    refine @prefix_argument first rest _ (sites.payload ++ (callClosing ++ sites.back))
      (sites.open_call hq hurl) ?_
    rw [← hsplit, call_eq, ← List.singleton_append]
    simp only [List.append_assoc]
    rw [← List.append_assoc callMiddle.dropLast, hword]
  have hmiddle : callMiddle.dropLast.length = 36 := rfl
  have hopening : callOpening.length = 16 := rfl
  have hend : argumentEnd.length = 2 := rfl
  have hlong := hkept.length_le
  have hall := congrArg List.length hsplit
  have hbehind := congrArg List.length hrest
  have hbody := congrArg List.length sites.staging_spec.1
  rw [Scan.replaceFirst_eq hfirst]
  intro hp
  have hshort := hp.length_le
  rw [hbody, hfront] at hshort
  simp only [List.length_append, List.length_singleton, List.length_nil, length_call,
    length_staging, hmiddle, hopening, hend] at hlong hall hbehind hshort
  omega

end IntoStaging

theorem not_prefix_of_front
    (h : Scan.Silent assertion? sites.front (sites.staging ++ sites.back)) :
    ¬ body <+: Scan.replaceFirst assertion? text [] sites.called := by
  obtain ⟨rest, hrest⟩ := sites.replaceFirst_called_front h
  intro hp
  have hbody : sites.front ++ (sites.staging ++ sites.back) <+: sites.front ++ 't' :: rest := by
    rw [← sites.staging_spec.1, ← hrest]
    exact hp
  rw [List.prefix_append_right_inj] at hbody
  obtain ⟨z, hz⟩ := hbody
  exact absurd (List.cons.inj hz).1 (by decide)

/-- A body never begins its own migration, whichever way its two statements stand. -/
theorem not_prefix_migrateBody :
    ¬ body <+: TestFunction.migrateBody {} sites.payload sites.url body := by
  rw [migrateBody_eq]
  cases sites.layout with
  | assertionFirst mid hfront hbehind =>
      rw [Scan.replaceFirst_eq (sites.first?_called_assertionFirst hfront hbehind)]
      intro hp
      have hshort := hp.length_le
      have hbody := congrArg List.length sites.staging_spec.1
      have hassertion := sites.length_assertion
      rw [hbody, hfront] at hshort
      simp only [List.length_append, List.length_nil, length_call, length_staging] at hshort
      omega
  | intoStaging q hfront hq =>
      by_cases hurl : sites.url.head? = some ')'
      · obtain ⟨u, hu⟩ := List.head?_eq_some_iff.mp hurl
        exact sites.not_prefix_of_paren hfront hq hu
      · exact sites.not_prefix_of_open hfront hq hurl
  | insidePayload x y hbefore _ => exact sites.not_prefix_of_front (sites.silent_front hbefore)
  | endOfPayload x u hbefore _ _ _ =>
      exact sites.not_prefix_of_front (sites.silent_front hbefore)
  | stagingFirst mid hbefore _ => exact sites.not_prefix_of_front (sites.silent_front hbefore)

end StagedMocks.Sites
