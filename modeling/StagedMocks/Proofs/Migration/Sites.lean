import StagedMocks.Migration.Function
import StagedMocks.Proofs.Statement

/-!
The first two legacy statements of a body, where they stand and how they can stand to each
other. The call takes the place of the staging, and then the first assertion of the result
goes. A statement that begins in front of the staging and reaches into it would do the same
with the call, so what is read in front of the two does not depend on which one is there.
-/
namespace StagedMocks

open Statement

/-- The word that every call begins with, whatever its helper. -/
def callWord : Text := "try ".toList

/-- The helper's call up to the URL. -/
def callOpening : Text := "try mock(.GET, \"".toList

/-- The helper's call between the URL and the payload. -/
def callMiddle : Text := "\", result: .success(jsonData(named: \"".toList

def callClosing : Text := "\")))".toList

theorem call_default (url payload : Text) :
    Settings.call {} url payload =
      callOpening ++ (url ++ (callMiddle ++ (payload ++ callClosing))) := by
  have hparts : ∀ a b c d e f g : Text,
      a ++ b ++ c ++ d ++ e ++ url ++ f ++ payload ++ g =
        (a ++ b ++ c ++ d ++ e) ++ (url ++ (f ++ (payload ++ g))) := by
    intro a b c d e f g
    simp only [List.append_assoc]
  exact hparts "try ".toList "mock".toList "(.".toList "GET".toList ", \"".toList
    callMiddle callClosing

theorem staging_of_first? {s front back : Text} {a : Statement}
    (h : Scan.first? staging? text s = some (front, a, back)) :
    a = ⟨stagingOpening, a.argument, argumentEnd⟩ := by
  have hread := ((Scan.first?_eq_some_iff staging?_reads.lawful).mp h).2.2
  obtain ⟨hopening, _, _, _, hclosing, _⟩ := staging?_reads.eq_some_iff.mp hread
  obtain ⟨opening, argument, closing⟩ := a
  simp only [List.mem_singleton, List.append_nil] at hopening hclosing
  rw [hopening, hclosing]

/-- Where the first staging and the first assertion of a body stand. -/
structure Sites (body : Text) where
  front : Text
  payload : Text
  back : Text
  before : Text
  assertion : Statement
  behind : Text
  staging_first : Scan.first? staging? text body =
    some (front, ⟨stagingOpening, payload, argumentEnd⟩, back)
  assertion_first : Scan.first? assertion? text body = some (before, assertion, behind)

namespace Sites

variable {body : Text} (sites : Sites body)

/-- The staging as it stands in the body. -/
def staging : Text :=
  stagingOpening ++ (sites.payload ++ argumentEnd)

/-- What the assertion expects. -/
def url : Text := sites.assertion.argument

/-- The helper's call that takes the place of the staging. -/
def call : Text := Settings.call {} sites.url sites.payload

/-- The body with the call in it. -/
def called : Text :=
  sites.front ++ (sites.call ++ sites.back)

theorem staging_spec :
    body = sites.front ++ (sites.staging ++ sites.back) ∧
      Scan.Silent staging? sites.front (sites.staging ++ sites.back) ∧
      '\n' ∉ sites.payload ∧ ¬ argumentEnd <:+: sites.payload := by
  obtain ⟨hbody, hsilent, hread⟩ :=
    (Scan.first?_eq_some_iff staging?_reads.lawful).mp sites.staging_first
  obtain ⟨_, hline, hno, _⟩ := staging?_reads.eq_some_iff.mp hread
  have htext : text ⟨stagingOpening, sites.payload, argumentEnd⟩ = sites.staging := by
    simp only [text, staging, List.append_assoc]
  rw [htext] at hbody hsilent
  exact ⟨hbody, hsilent, hline, hno⟩

theorem assertion_spec :
    body = sites.before ++ (sites.assertion.text ++ sites.behind) ∧
      Scan.Silent assertion? sites.before (sites.assertion.text ++ sites.behind) ∧
      assertion? (sites.assertion.text ++ sites.behind) = some sites.assertion :=
  (Scan.first?_eq_some_iff assertion?_reads.lawful).mp sites.assertion_first

theorem parts_eq : sites.before ++ (sites.assertion.text ++ sites.behind) =
    sites.front ++ (sites.staging ++ sites.back) :=
  sites.assertion_spec.1.symm.trans sites.staging_spec.1

theorem assertion_text : sites.assertion.text =
    sites.assertion.opening ++ (sites.url ++ sites.assertion.closing) := by
  rw [text, List.append_assoc, url]

theorem assertion_parts :
    sites.assertion.opening ∈ assertionOpenings ∧ '\n' ∉ sites.url ∧
      ¬ argumentEnd <:+: sites.url ∧
      ∃ lineEnd, (∀ c ∈ lineEnd, c = '\n') ∧
        sites.assertion.closing = argumentEnd ++ lineEnd := by
  obtain ⟨hopening, hline, hno, rest, hclosing, _⟩ :=
    assertion?_reads.eq_some_iff.mp sites.assertion_spec.2.2
  refine ⟨hopening, hline, hno, lineFeed rest, ?_, hclosing⟩
  intro c hc
  rw [lineFeed] at hc
  split at hc
  · exact List.mem_singleton.mp hc
  · cases hc

theorem staging_append (rest : Text) :
    sites.staging ++ rest = stagingOpening ++ (sites.payload ++ (argumentEnd ++ rest)) := by
  simp only [staging, List.append_assoc]

theorem call_eq : sites.call =
    callOpening ++ (sites.url ++ (callMiddle ++ (sites.payload ++ callClosing))) :=
  call_default _ _

/-- The call up to its payload, and `x` where the payload stands. -/
def callUpTo (x : Text) : Text :=
  callOpening ++ (sites.url ++ (callMiddle ++ x))

theorem callUpTo_append (x y : Text) : sites.callUpTo x ++ y = sites.callUpTo (x ++ y) := by
  simp only [callUpTo, List.append_assoc]

theorem call_eq_upTo : sites.call = sites.callUpTo (sites.payload ++ callClosing) :=
  sites.call_eq

/-- A body's migration is the body with the call in it, without its first assertion. -/
theorem migrateBody_eq :
    TestFunction.migrateBody {} sites.payload sites.url body =
      Scan.replaceFirst assertion? text [] sites.called := by
  rw [TestFunction.migrateBody, Scan.replaceFirst_eq sites.staging_first, called, call]

/-- How the first staging and the first assertion can stand to each other. -/
inductive Layout : Prop where
  | assertionFirst (mid : Text) :
      sites.front = sites.before ++ (sites.assertion.text ++ mid) →
      sites.behind = mid ++ (sites.staging ++ sites.back) → Layout
  | intoStaging (q : Text) :
      sites.front = sites.before ++ (sites.assertion.opening ++ q) →
      q ++ stagingOpening <+: sites.url ++ ['"'] → Layout
  | insidePayload (x y : Text) :
      sites.before = sites.front ++ (stagingOpening ++ x) →
      sites.payload = x ++ (sites.assertion.opening ++ y) → Layout
  | endOfPayload (x u : Text) :
      sites.before = sites.front ++ (stagingOpening ++ x) →
      sites.payload ++ ['"'] = x ++ sites.assertion.opening → sites.url = ')' :: u →
      sites.back = u ++ (sites.assertion.closing ++ sites.behind) → Layout
  | stagingFirst (mid : Text) :
      sites.before = sites.front ++ (sites.staging ++ mid) →
      sites.back = mid ++ (sites.assertion.text ++ sites.behind) → Layout

theorem assertion_head : ∃ rest, sites.assertion.text = 'X' :: rest := by
  obtain ⟨hopening, _⟩ := sites.assertion_parts
  have hhead : ∀ opening ∈ assertionOpenings, opening.head? = some 'X' := by decide
  obtain ⟨c, rest, hcons⟩ := List.exists_cons_of_ne_nil
    (assertion?_reads.opening_ne_nil _ hopening)
  have hc := hhead _ hopening
  rw [hcons, List.head?_cons, Option.some.injEq] at hc
  rw [assertion_text, hcons, hc]
  exact ⟨_, rfl⟩

/-- An assertion that starts before the staging and does not end there has the staging's
opening in its argument. -/
theorem layout_of_before {t w : Text} (hw : w ≠ [])
    (hfront : sites.front = sites.before ++ t) (htext : sites.assertion.text = t ++ w)
    (hrest : sites.staging ++ sites.back = w ++ sites.behind) : sites.Layout := by
  obtain ⟨hopening, _, hno, lineEnd, hlineEnd, hclosing⟩ := sites.assertion_parts
  have hs : 's' ∈ w := by
    cases w with
    | nil => exact absurd rfl hw
    | cons c w =>
        have hc : 's' = c := (List.cons.inj hrest).1
        exact hc ▸ List.mem_cons_self
  have ht : t ≠ [] := by
    intro hnil
    obtain ⟨rest, hhead⟩ := sites.assertion_head
    rw [htext, hnil, List.nil_append] at hhead
    rw [hhead] at hrest
    exact absurd (List.cons.inj hrest).1 (by decide)
  have hall : sites.assertion.text ++ sites.behind =
      t ++ (stagingOpening ++ (sites.payload ++ (argumentEnd ++ sites.back))) := by
    rw [htext, List.append_assoc, ← hrest, staging_append]
  have hbegins : sites.assertion.opening <+: sites.assertion.text ++ sites.behind := by
    rw [assertion_text, List.append_assoc]
    exact List.prefix_append _ _
  have hapart : ∀ opening ∈ assertionOpenings, Text.Apart opening stagingOpening := by decide
  obtain ⟨q, rfl⟩ := (hapart _ hopening).prefix_left ht (hall ▸ hbegins)
  refine .intoStaging q hfront ?_
  rw [assertion_text, hclosing] at htext hall
  simp only [List.append_assoc] at htext hall
  have hurl := List.append_cancel_left htext
  -- The argument cannot end before the staging begins.
  have hq : ¬ argumentEnd <:+: q := by
    obtain ⟨v, hv, _⟩ | ⟨v, _, _, hv⟩ := Text.append_eq_append_cases hurl.symm
    · intro hin
      exact hno (hv ▸ List.infix_append_of_infix_left hin)
    · have hmem : 's' ∈ argumentEnd ++ lineEnd := hv ▸ List.mem_append_right v hs
      obtain hmem | hmem := List.mem_append.mp hmem
      · exact absurd hmem (by decide)
      · exact absurd (hlineEnd _ hmem) (by decide)
  have hword : stagingOpening = stagingOpening.dropLast ++ ['"'] := by decide
  have hopen : ¬ argumentEnd <:+: q ++ stagingOpening.dropLast := by
    intro hin
    obtain hin | hin | hin := argumentEnd_infix_append hin
    · exact hq hin
    · have hquote : '"' ∈ argumentEnd := by decide
      exact absurd (hin.subset hquote) (by decide)
    · exact absurd hin (by decide)
  rw [hword] at hall
  simp only [List.append_assoc, List.cons_append, List.nil_append] at hall
  have hprefix := prefix_argument hopen
    ((List.append_cancel_left hall).trans (List.append_assoc _ _ _).symm)
  rw [List.append_assoc, ← hword] at hprefix
  exact hprefix

/-- An assertion that starts inside the staging starts in its payload, with its opening inside
the payload or up to the payload's closing quote. -/
theorem layout_of_inside {t w : Text} (ht : t ≠ []) (hw : w ≠ [])
    (hbefore : sites.before = sites.front ++ t) (htext : sites.staging = t ++ w)
    (hrest : sites.assertion.text ++ sites.behind = w ++ sites.back) : sites.Layout := by
  obtain ⟨hopening, _, _, lineEnd, _, hclosing⟩ := sites.assertion_parts
  have hX : w.head? = some 'X' := by
    obtain ⟨rest, hhead⟩ := sites.assertion_head
    cases w with
    | nil => exact absurd rfl hw
    | cons c w =>
        rw [hhead] at hrest
        exact congrArg some (List.cons.inj hrest).1.symm
  rw [staging] at htext
  obtain ⟨x, rfl, hx⟩ | ⟨v, hv, hsplit, rfl⟩ := Text.append_eq_append_cases htext
  · obtain ⟨y, rfl, hy⟩ | ⟨y, _, hpayload, rfl⟩ := Text.append_eq_append_cases hx
    · have hmem : 'X' ∈ argumentEnd := hy ▸ List.mem_append_right y (List.mem_of_head? hX)
      exact absurd hmem (by decide)
    · rw [assertion_text, argumentEnd_eq] at hrest
      simp only [List.append_assoc, List.cons_append, List.nil_append] at hrest
      obtain ⟨hquoted, hplain⟩ := assertionOpenings_quoted _ hopening
      have hbegins : sites.assertion.opening.dropLast ++ ['"'] <+:
          y ++ '"' :: ')' :: sites.back := by
        rw [← hquoted, ← hrest]
        exact List.prefix_append _ _
      obtain hinside | hend := Text.prefix_append_cons hplain hbegins
      · obtain ⟨z, rfl⟩ := hinside
        rw [← hquoted] at hpayload
        exact .insidePayload x z hbefore hpayload
      · -- The opening takes the payload's closing quote, and its argument the parenthesis.
        rw [hquoted, hend] at hrest
        simp only [List.append_assoc, List.cons_append, List.nil_append] at hrest
        have hrest := (List.cons.inj (List.append_cancel_left hrest)).2
        cases hurl : sites.url with
        | nil =>
            rw [hurl, hclosing] at hrest
            cases (List.cons.inj hrest).1
        | cons c u =>
            rw [hurl, List.cons_append, List.cons.injEq] at hrest
            refine .endOfPayload x u hbefore ?_ (hrest.1 ▸ hurl) hrest.2.symm
            rw [hpayload, hquoted, hend, List.append_assoc]
  · cases v with
    | nil => exact absurd rfl hv
    | cons c v =>
        have hmem : c ∈ stagingOpening := hsplit ▸ List.mem_append_right t List.mem_cons_self
        rw [List.cons_append, List.head?_cons, Option.some.injEq] at hX
        exact absurd (hX ▸ hmem) (by decide)

theorem layout : sites.Layout := by
  obtain ⟨t, hfront, ht⟩ | ⟨t, hne, hbefore, ht⟩ := Text.append_eq_append_cases sites.parts_eq
  · obtain ⟨mid, rfl, hbehind⟩ | ⟨w, hw, htext, hrest⟩ := Text.append_eq_append_cases ht
    · exact .assertionFirst mid hfront hbehind
    · exact sites.layout_of_before hw hfront htext hrest
  · obtain ⟨mid, rfl, hback⟩ | ⟨w, hw, htext, hrest⟩ := Text.append_eq_append_cases ht
    · exact .stagingFirst mid hbefore hback
    · exact sites.layout_of_inside hne hw hbefore htext hrest

/-- A statement that begins before a call's first word would begin before the staging as well. -/
theorem silent_exchange_word {read? : Text → Option Statement} {openings : List Text}
    {lineEnd : Text → Text} (reads : Reads read? openings lineEnd)
    (hapart : ∀ opening ∈ openings, Text.Apart opening callWord) {x y : Text}
    (h : Scan.Silent read? x (y ++ (sites.staging ++ sites.back))) (rest : Text) :
    Scan.Silent read? x (y ++ (callWord ++ rest)) := by
  rw [reads.silent_iff] at h ⊢
  intro part hpart e he hs hp
  have hline : '\n' ∉ stagingOpening ++ sites.payload := by
    have hopening : '\n' ∉ stagingOpening := by decide
    simp [hopening, sites.staging_spec.2.2.1]
  rw [← List.append_assoc e] at hp
  obtain ⟨part', hpart', hp'⟩ := @exists_spells_exchange _ _ _ _ _ sites.back _ hapart
    (List.append_ne_nil_of_left_ne_nil he y) hline hpart hp
  refine h part' hpart' e he hs ?_
  simpa only [staging_append, List.append_assoc] using hp'

theorem callUpTo_word (rest : Text) :
    sites.callUpTo rest = callWord ++
      ("mock(.GET, \"".toList ++ (sites.url ++ (callMiddle ++ rest))) := by
  have hopening : callOpening = callWord ++ "mock(.GET, \"".toList := by decide
  rw [callUpTo, hopening, List.append_assoc]

theorem silent_exchange_upTo {read? : Text → Option Statement} {openings : List Text}
    {lineEnd : Text → Text} (reads : Reads read? openings lineEnd)
    (hapart : ∀ opening ∈ openings, Text.Apart opening callWord) {x y : Text}
    (h : Scan.Silent read? x (y ++ (sites.staging ++ sites.back))) (rest : Text) :
    Scan.Silent read? x (y ++ sites.callUpTo rest) := by
  rw [callUpTo_word]
  exact sites.silent_exchange_word reads hapart h _

theorem silent_exchange {read? : Text → Option Statement} {openings : List Text}
    {lineEnd : Text → Text} (reads : Reads read? openings lineEnd)
    (hapart : ∀ opening ∈ openings, Text.Apart opening callWord) {x y : Text}
    (h : Scan.Silent read? x (y ++ (sites.staging ++ sites.back))) (rest : Text) :
    Scan.Silent read? x (y ++ (sites.call ++ rest)) := by
  rw [call_eq_upTo, callUpTo_append]
  exact sites.silent_exchange_upTo reads hapart h _

theorem assertion_apart_call : ∀ opening ∈ assertionOpenings,
    Text.Apart opening callWord := by decide

theorem staging_apart_call : ∀ opening ∈ [stagingOpening],
    Text.Apart opening callWord := by decide

/-- An assertion in front of the staging is the first one beside any call, too. -/
theorem first?_exchanged_assertionFirst {mid call rest : Text} (hcall : call = callWord ++ rest)
    (hfront : sites.front = sites.before ++ (sites.assertion.text ++ mid))
    (hbehind : sites.behind = mid ++ (sites.staging ++ sites.back)) :
    Scan.first? assertion? text (sites.front ++ (call ++ sites.back)) =
      some (sites.before, sites.assertion, mid ++ (call ++ sites.back)) := by
  obtain ⟨_, hsilent, hread⟩ := sites.assertion_spec
  rw [hbehind] at hsilent hread
  rw [Scan.first?_eq_some_iff assertion?_reads.lawful]
  refine ⟨?_, ?_, ?_⟩
  · rw [hfront]
    simp only [List.append_assoc]
  · rw [← List.append_assoc] at hsilent ⊢
    rw [hcall, List.append_assoc callWord]
    exact sites.silent_exchange_word assertion?_reads assertion_apart_call hsilent _
  · refine assertion?_reads.eq_some_of_rest hread ?_
    intro hend
    cases mid with
    | nil =>
        rw [hcall]
        rfl
    | cons c mid => exact hend

theorem first?_called_assertionFirst {mid : Text}
    (hfront : sites.front = sites.before ++ (sites.assertion.text ++ mid))
    (hbehind : sites.behind = mid ++ (sites.staging ++ sites.back)) :
    Scan.first? assertion? text sites.called =
      some (sites.before, sites.assertion, mid ++ (sites.call ++ sites.back)) :=
  sites.first?_exchanged_assertionFirst (sites.call_eq_upTo.trans (sites.callUpTo_word _))
    hfront hbehind

theorem silent_front {x : Text} (h : sites.before = sites.front ++ x) :
    Scan.Silent assertion? sites.front (sites.staging ++ sites.back) := by
  have hsilent := sites.assertion_spec.2.1
  have hparts := sites.parts_eq
  rw [h, Scan.silent_append_iff] at hsilent
  rw [h, List.append_assoc] at hparts
  rw [← List.append_cancel_left hparts]
  exact hsilent.1

theorem call_line : '\n' ∉ sites.callUpTo sites.payload := by
  have hopening : '\n' ∉ callOpening := by decide
  have hmiddle : '\n' ∉ callMiddle := by decide
  simp [callUpTo, hopening, hmiddle, sites.assertion_parts.2.1, sites.staging_spec.2.2.1]

theorem call_append (rest : Text) : sites.call ++ rest =
    sites.callUpTo sites.payload ++ (argumentEnd ++ (')' :: ')' :: rest)) := by
  have hclosing : callClosing = argumentEnd ++ [')', ')'] := by decide
  rw [call_eq_upTo, callUpTo_append, callUpTo_append, hclosing]
  simp only [List.append_assoc, List.cons_append, List.nil_append]

end Sites

end StagedMocks
