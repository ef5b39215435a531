import StagedMocks.Proofs.Migration.Function
import StagedMocks.Proofs.Migration.Call

/-!
What a migrated body holds. It is unified if the helper's call stands in it once and no
legacy statement is left. A body with one statement of each kind gets there exactly if the
call brings no statement along and nothing is joined where the assertion was; only where
the payload ends in an assertion's opening can the rest of the body make up for what the
second search takes from the call.
-/
namespace StagedMocks.Sites

open Statement

variable {body : Text} (sites : Sites body)

/-- No legacy statement begins in `front` when `rest` stands behind it. -/
def Quiet (front rest : Text) : Prop :=
  Scan.Silent staging? front rest ∧ Scan.Silent assertion? front rest

theorem quiet_append_iff {x y rest : Text} :
    Quiet (x ++ y) rest ↔ Quiet x (y ++ rest) ∧ Quiet y rest := by
  simp only [Quiet, Scan.silent_append_iff]
  exact and_and_and_comm

/-- The call stands once in a body, and no legacy statement is left. -/
structure Unified (call body : Text) : Prop where
  once : Text.Once call body
  staging_gone : Scan.all staging? text body = []
  assertion_gone : Scan.all assertion? text body = []

theorem unified_iff {call s : Text} : Unified call s ↔ Text.Once call s ∧ Quiet s [] := by
  constructor
  · intro ⟨honce, hstaging, hassertion⟩
    exact ⟨honce, (Scan.all_eq_nil_iff staging?_reads.lawful).mp hstaging,
      (Scan.all_eq_nil_iff assertion?_reads.lawful).mp hassertion⟩
  · intro ⟨honce, hstaging, hassertion⟩
    exact ⟨honce, (Scan.all_eq_nil_iff staging?_reads.lawful).mpr hstaging,
      (Scan.all_eq_nil_iff assertion?_reads.lawful).mpr hassertion⟩

/-- How a body comes to be unified. -/
inductive Unifies : Prop where
  | stagingFirst (mid : Text) :
      sites.before = sites.front ++ (sites.staging ++ mid) →
      sites.back = mid ++ (sites.assertion.text ++ sites.behind) →
      Quiet (sites.call ++ mid) sites.behind →
      ¬ Text.Across sites.call (sites.front ++ (sites.call ++ mid)) sites.behind → Unifies
  | assertionFirst (mid : Text) :
      sites.front = sites.before ++ (sites.assertion.text ++ mid) →
      sites.behind = mid ++ (sites.staging ++ sites.back) →
      Quiet sites.call sites.back → Quiet sites.before (mid ++ (sites.call ++ sites.back)) →
      ¬ Text.Across sites.call sites.before (mid ++ (sites.call ++ sites.back)) → Unifies
  | endOfPayload (x u : Text) :
      sites.before = sites.front ++ (stagingOpening ++ x) →
      sites.payload ++ ['"'] = x ++ sites.assertion.opening → sites.url = ')' :: u →
      sites.back = u ++ (sites.assertion.closing ++ sites.behind) →
      Quiet (sites.callUpTo x) sites.behind →
      Text.Across sites.call (sites.front ++ sites.callUpTo x) sites.behind → Unifies

theorem callClean_of_silent {rest : Text} (h : Scan.Silent assertion? sites.call rest) :
    sites.CallClean :=
  fun _ hpart => assertion?_reads.not_infix_of_silent h hpart

theorem callClean_of_unified {s : Text} (h : Unified sites.call s) : sites.CallClean := by
  obtain ⟨honce, _, hassertion⟩ := unified_iff.mp h
  intro part hpart hin
  exact assertion?_reads.not_infix_of_silent hassertion hpart (hin.trans honce.occurs)

/-- A body that holds the marker nowhere and no further statement behind its first two. -/
structure Lone : Prop where
  marker_free : ¬ Settings.marker {} <:+: body
  back_silent : Scan.Silent staging? sites.back []
  behind_silent : Scan.Silent assertion? sites.behind []

theorem quiet_exchange {x y : Text} (hstaging : Scan.Silent staging? x
      (y ++ (sites.staging ++ sites.back)))
    (hassertion : Scan.Silent assertion? x (y ++ (sites.staging ++ sites.back))) (rest : Text) :
    Quiet x (y ++ (sites.call ++ rest)) :=
  ⟨sites.silent_exchange staging?_reads staging_apart_call hstaging rest,
    sites.silent_exchange assertion?_reads assertion_apart_call hassertion rest⟩

theorem unified_stagingFirst_iff (lone : sites.Lone) {mid : Text}
    (hbefore : sites.before = sites.front ++ (sites.staging ++ mid))
    (hback : sites.back = mid ++ (sites.assertion.text ++ sites.behind)) :
    Unified sites.call (sites.front ++ (sites.call ++ mid) ++ sites.behind) ↔
      Quiet (sites.call ++ mid) sites.behind ∧
        ¬ Text.Across sites.call (sites.front ++ (sites.call ++ mid)) sites.behind := by
  obtain ⟨hmarker, hstaging, hassertion⟩ := lone
  -- Before the call nothing begins that did not begin before the staging.
  have hfront : Quiet sites.front ((sites.call ++ mid) ++ sites.behind) := by
    have hquiet := @quiet_exchange _ sites _ [] sites.staging_spec.2.1
      (sites.silent_front hbefore) (mid ++ sites.behind)
    simpa only [List.nil_append, List.append_assoc] using hquiet
  have hbehind : Quiet sites.behind [] := by
    rw [hback, Scan.silent_append_iff, Scan.silent_append_iff] at hstaging
    exact ⟨hstaging.2.2, hassertion⟩
  have honce : Text.Once sites.call (sites.front ++ (sites.call ++ mid)) := by
    refine sites.once_call hmarker sites.front_infix (List.IsInfix.trans ?_ sites.back_infix)
    exact hback ▸ (List.prefix_append mid _).isInfix
  have hnot : ¬ sites.call <:+: sites.behind := by
    refine sites.call_not_infix hmarker (List.IsInfix.trans ?_ sites.back_infix)
    exact hback ▸ ⟨mid ++ sites.assertion.text, [], by simp⟩
  rw [unified_iff, honce.append_right hnot, quiet_append_iff, quiet_append_iff, List.append_nil]
  constructor
  · intro ⟨hacross, ⟨_, hcall⟩, _⟩
    exact ⟨hcall, hacross⟩
  · intro ⟨hcall, hacross⟩
    exact ⟨hacross, ⟨hfront, hcall⟩, hbehind⟩

theorem unified_assertionFirst_iff (lone : sites.Lone) {mid : Text}
    (hfront : sites.front = sites.before ++ (sites.assertion.text ++ mid))
    (hbehind : sites.behind = mid ++ (sites.staging ++ sites.back)) :
    Unified sites.call (sites.before ++ (mid ++ (sites.call ++ sites.back))) ↔
      Quiet sites.call sites.back ∧ Quiet sites.before (mid ++ (sites.call ++ sites.back)) ∧
        ¬ Text.Across sites.call sites.before (mid ++ (sites.call ++ sites.back)) := by
  obtain ⟨hmarker, hstaging, hassertion⟩ := lone
  rw [hbehind, Scan.silent_append_iff, Scan.silent_append_iff, List.append_nil,
    List.append_nil] at hassertion
  have hmid : Quiet mid (sites.call ++ sites.back) := by
    have hsilent := sites.staging_spec.2.1
    rw [hfront, Scan.silent_append_iff, Scan.silent_append_iff] at hsilent
    exact @quiet_exchange _ sites _ [] hsilent.2.2 hassertion.1 sites.back
  have hback : Quiet sites.back [] := ⟨hstaging, hassertion.2.2⟩
  have honce : Text.Once sites.call (mid ++ (sites.call ++ sites.back)) := by
    refine sites.once_call hmarker (List.IsInfix.trans ?_ sites.front_infix) sites.back_infix
    exact hfront ▸ ⟨sites.before ++ sites.assertion.text, [], by simp⟩
  have hnot : ¬ sites.call <:+: sites.before := by
    refine sites.call_not_infix hmarker (List.IsInfix.trans ?_ sites.front_infix)
    exact hfront ▸ (List.prefix_append sites.before _).isInfix
  rw [unified_iff, honce.append_left hnot]
  simp only [quiet_append_iff, List.append_nil]
  constructor
  · intro ⟨hacross, hbefore, _, hcall, _⟩
    exact ⟨hcall, hbefore, hacross⟩
  · intro ⟨hcall, hbefore, hacross⟩
    exact ⟨hacross, hbefore, hmid, hcall, hback⟩

/-- The call is cut off in its payload, and only what stands behind the assertion can end it
again. -/
theorem unified_endOfPayload_iff (lone : sites.Lone) {x u : Text}
    (hbefore : sites.before = sites.front ++ (stagingOpening ++ x))
    (hx : sites.payload ++ ['"'] = x ++ sites.assertion.opening)
    (hback : sites.back = u ++ (sites.assertion.closing ++ sites.behind)) :
    Unified sites.call ((sites.front ++ sites.callUpTo x) ++ sites.behind) ↔
      Quiet (sites.callUpTo x) sites.behind ∧
        Text.Across sites.call (sites.front ++ sites.callUpTo x) sites.behind := by
  obtain ⟨hmarker, hstaging, hassertion⟩ := lone
  have hfront : Quiet sites.front (sites.callUpTo x ++ sites.behind) := by
    have hsilent := sites.silent_front hbefore
    rw [callUpTo_append]
    exact ⟨@silent_exchange_upTo _ sites _ _ _ staging?_reads staging_apart_call _ []
        sites.staging_spec.2.1 _,
      @silent_exchange_upTo _ sites _ _ _ assertion?_reads assertion_apart_call _ [] hsilent _⟩
  have hbehind : Quiet sites.behind [] := by
    rw [hback, Scan.silent_append_iff, Scan.silent_append_iff] at hstaging
    exact ⟨hstaging.2.2, hassertion⟩
  rw [unified_iff, sites.once_endOfPayload_iff hmarker hx, quiet_append_iff, quiet_append_iff,
    List.append_nil]
  constructor
  · intro ⟨hacross, ⟨_, hcall⟩, _⟩
    exact ⟨hcall, hacross⟩
  · intro ⟨hcall, hacross⟩
    exact ⟨hacross, ⟨hfront, hcall⟩, hbehind⟩

/-- An assertion that reaches into the staging takes its opening into the URL, and so into the
call. -/
theorem staging_in_call {q : Text} (hq : q ++ stagingOpening <+: sites.url ++ ['"']) :
    ∃ part, Spells [stagingOpening] part ∧ part <:+: sites.call := by
  obtain ⟨w, hw⟩ := hq
  have hmiddle : callMiddle = ['"'] ++ callMiddle.tail := by decide
  have hclosing : callClosing = argumentEnd ++ [')', ')'] := by decide
  have hline : '\n' ∉ w ++ (callMiddle.tail ++ sites.payload) := by
    have hquote : '\n' ∉ sites.url ++ ['"'] := by simp [sites.assertion_parts.2.1]
    have htail : '\n' ∉ callMiddle.tail := by decide
    have hwline : '\n' ∉ w := fun hmem => hquote (hw ▸ List.mem_append_right _ hmem)
    simp [hwline, htail, sites.staging_spec.2.2.1]
  refine ⟨_, ⟨stagingOpening, by simp, _, hline, rfl⟩, callOpening ++ q, [')', ')'], ?_⟩
  rw [call_eq, hclosing, hmiddle, List.append_assoc ['"'], ← List.append_assoc sites.url, ← hw]
  simp only [List.append_assoc, List.singleton_append, List.tail_cons]

theorem assertion_in_call {x y : Text}
    (hpayload : sites.payload = x ++ (sites.assertion.opening ++ y)) : ¬ sites.CallClean := by
  have hclosing : callClosing = argumentEnd ++ [')', ')'] := by decide
  have hline : '\n' ∉ y := by
    intro hmem
    refine sites.staging_spec.2.2.1 ?_
    rw [hpayload]
    simp [hmem]
  intro hclean
  refine hclean _ ⟨sites.assertion.opening, sites.assertion_parts.1, y, hline, rfl⟩
    ⟨sites.callUpTo x, [')', ')'], ?_⟩
  rw [call_eq_upTo, callUpTo_append, callUpTo_append, hclosing, hpayload]
  simp only [List.append_assoc]

theorem unified_migrateBody_iff (lone : sites.Lone) :
    Unified sites.call (TestFunction.migrateBody {} sites.payload sites.url body) ↔
      sites.Unifies := by
  rw [migrateBody_eq]
  constructor
  · intro h
    have hclean := sites.callClean_of_unified h
    cases sites.layout with
    | assertionFirst mid hfront hbehind =>
        rw [Scan.replaceFirst_eq (sites.first?_called_assertionFirst hfront hbehind)] at h
        obtain ⟨hcall, hbefore, hacross⟩ :=
          (sites.unified_assertionFirst_iff lone hfront hbehind).mp h
        exact .assertionFirst mid hfront hbehind hcall hbefore hacross
    | intoStaging q _ hq =>
        obtain ⟨part, hpart, hin⟩ := sites.staging_in_call hq
        obtain ⟨honce, hstaging, _⟩ := unified_iff.mp h
        exact absurd (hin.trans honce.occurs) (staging?_reads.not_infix_of_silent hstaging hpart)
    | insidePayload x y _ hpayload => exact absurd hclean (sites.assertion_in_call hpayload)
    | endOfPayload x u hbefore hx hurl hback =>
        obtain ⟨a, hfirst⟩ := sites.first?_called_endOfPayload hclean hbefore hx hurl hback
        rw [Scan.replaceFirst_eq hfirst] at h
        obtain ⟨hcall, hacross⟩ := (sites.unified_endOfPayload_iff lone hbefore hx hback).mp h
        exact .endOfPayload x u hbefore hx hurl hback hcall hacross
    | stagingFirst mid hbefore hback =>
        rw [Scan.replaceFirst_eq (sites.first?_called_stagingFirst hclean hbefore hback)] at h
        obtain ⟨hcall, hacross⟩ := (sites.unified_stagingFirst_iff lone hbefore hback).mp h
        exact .stagingFirst mid hbefore hback hcall hacross
  · intro h
    cases h with
    | assertionFirst mid hfront hbehind hcall hbefore hacross =>
        rw [Scan.replaceFirst_eq (sites.first?_called_assertionFirst hfront hbehind)]
        exact (sites.unified_assertionFirst_iff lone hfront hbehind).mpr
          ⟨hcall, hbefore, hacross⟩
    | endOfPayload x u hbefore hx hurl hback hcall hacross =>
        have h := (sites.unified_endOfPayload_iff lone hbefore hx hback).mpr ⟨hcall, hacross⟩
        obtain ⟨a, hfirst⟩ := sites.first?_called_endOfPayload (sites.callClean_of_unified h)
          hbefore hx hurl hback
        rw [Scan.replaceFirst_eq hfirst]
        exact h
    | stagingFirst mid hbefore hback hcall hacross =>
        have hclean := sites.callClean_of_silent (Scan.silent_append_iff.mp hcall.2).1
        rw [Scan.replaceFirst_eq (sites.first?_called_stagingFirst hclean hbefore hback)]
        exact (sites.unified_stagingFirst_iff lone hbefore hback).mpr ⟨hcall, hacross⟩

theorem exists_lone {s : Text} {staging assertion : Scan.Located Statement}
    (hmarker : Text.occursIn (Settings.marker {}) s = false)
    (hstaging : Scan.all staging? text s = [staging])
    (hassertion : Scan.all assertion? text s = [assertion]) :
    ∃ sites : Sites s, sites.Lone ∧ sites.front.byteLength = staging.start ∧
      sites.payload = staging.value.argument ∧ sites.before.byteLength = assertion.start ∧
      sites.assertion = assertion.value := by
  obtain ⟨front, back, hfirst, hstart, hback⟩ :=
    Scan.all_eq_singleton staging?_reads.lawful hstaging
  obtain ⟨before, behind, hfirst', hstart', hbehind⟩ :=
    Scan.all_eq_singleton assertion?_reads.lawful hassertion
  have hmarker : ¬ Settings.marker {} <:+: s := by
    rw [← Text.occursIn_iff, hmarker]
    decide
  rw [staging_of_first? hfirst] at hfirst
  exact ⟨⟨front, _, back, before, _, behind, hfirst, hfirst'⟩, ⟨hmarker, hback, hbehind⟩,
    hstart.symm, rfl, hstart'.symm, rfl⟩

end StagedMocks.Sites

namespace StagedMocks.TestFunction

open Statement

/-- A body without the marker that has one statement of each kind, both with an argument, is
migrated, and its new body is unified exactly in the listed ways. -/
theorem migrate_unified_iff (function : TestFunction)
    {staging assertion : Scan.Located Statement}
    (hmarker : Text.occursIn (Settings.marker {}) function.body = false)
    (hstaging : Scan.all staging? Statement.text function.body = [staging])
    (hassertion : Scan.all assertion? Statement.text function.body = [assertion])
    (hpayload : staging.value.argument ≠ []) (hurl : assertion.value.argument ≠ []) :
    (function.migrate {}).outcome = .migrated ∧
      (function.migrate {}).text = function.throwingHeader ++ migrateBody {}
        staging.value.argument assertion.value.argument function.body ++ plainClosing ∧
      ∃ sites : Sites function.body,
        sites.front.byteLength = staging.start ∧ sites.payload = staging.value.argument ∧
        sites.before.byteLength = assertion.start ∧ sites.assertion = assertion.value ∧
        (Sites.Unified (Settings.call {} assertion.value.argument staging.value.argument)
            (migrateBody {} staging.value.argument assertion.value.argument function.body) ↔
          sites.Unifies) := by
  obtain ⟨sites, lone, hfront, hp, hbefore, ha⟩ := Sites.exists_lone hmarker hstaging hassertion
  have hu : sites.url = assertion.value.argument := by rw [Sites.url, ha]
  rw [← hp] at hpayload
  rw [← hu] at hurl
  have huse : LegacyUse.ofBody function.body = ⟨some sites.payload, some sites.url⟩ := by
    rw [LegacyUse.ofBody,
      firstArgument?_eq_some_iff.mpr ⟨_, _, _, sites.staging_first, rfl, hpayload⟩,
      firstArgument?_eq_some_iff.mpr ⟨_, _, _, sites.assertion_first, rfl, hurl⟩]
    rfl
  obtain ⟨hmarked, _⟩ | ⟨_, hnone, _⟩ | ⟨_, payload, url, huse', houtcome, htext⟩ :=
    migrate_cases {} function
  · rw [hmarker] at hmarked
    cases hmarked
  · rw [huse] at hnone
    obtain hnone | hnone := hnone
    · cases hnone
    · cases hnone
  · rw [huse, LegacyUse.mk.injEq, Option.some.injEq, Option.some.injEq] at huse'
    obtain ⟨rfl, rfl⟩ := huse'
    rw [← hp, ← hu]
    exact ⟨houtcome, htext, sites, hfront, rfl, hbefore, ha, sites.unified_migrateBody_iff lone⟩

def movieTest : TestFunction where
  header := "func test_movie() throws \x7b".toList
  declaration := "func test_movie()".toList
  effects := " throws".toList
  body := "session.nextData = jsonData(named: \"movie\")\n".toList ++
    "XCTAssertEqual(session.lastURL?., \"/1\")".toList
  text := "func test_movie() throws \x7bsession.nextData = jsonData(named: \"movie\")\n".toList ++
    "XCTAssertEqual(session.lastURL?., \"/1\")\n    \x7d".toList

theorem migrate_unified_movieTest :
    (movieTest.migrate {}).outcome = .migrated ∧
      Sites.Unified (Settings.call {} "/1".toList "movie".toList)
        (migrateBody {} "movie".toList "/1".toList movieTest.body) ∧
      ∃ sites : Sites movieTest.body, sites.Unifies := by
  have h := @migrate_unified_iff movieTest ⟨0, ⟨stagingOpening, "movie".toList, argumentEnd⟩⟩
    ⟨44, ⟨assertionOpening ++ [] ++ expectedOpening, "/1".toList, argumentEnd ++ []⟩⟩
    (by decide) (by rfl) (by rfl) (by decide) (by decide)
  obtain ⟨houtcome, _, sites, _, hpayload, _, hassertion, hiff⟩ := h
  have hcall : sites.call = Settings.call {} "/1".toList "movie".toList := by
    rw [Sites.call, Sites.url, hpayload, hassertion]
  have honce : Text.Once sites.call ([] ++ (sites.call ++ ['\n'])) := by
    refine sites.once_call ?_ List.nil_infix ?_
    · rw [← Text.occursIn_iff]
      decide
    · rw [← Text.occursIn_iff]
      decide
  have hbody : migrateBody {} "movie".toList "/1".toList movieTest.body =
      [] ++ (Settings.call {} "/1".toList "movie".toList ++ ['\n']) := by decide +kernel
  rw [hcall, ← hbody] at honce
  have hunified : Sites.Unified (Settings.call {} "/1".toList "movie".toList)
      (migrateBody {} "movie".toList "/1".toList movieTest.body) := by
    refine Sites.unified_iff.mpr ⟨honce, ?_, ?_⟩
    · exact (@Scan.first?_eq_none_iff _ _ Statement.text _).mp (by decide +kernel)
    · exact (@Scan.first?_eq_none_iff _ _ Statement.text _).mp (by decide +kernel)
  exact ⟨houtcome, hunified, sites, hiff.mp hunified⟩

/-- A function whose payload ends in an assertion's opening. -/
def openedTest : TestFunction where
  header := "func test_a() throws \x7b".toList
  declaration := "func test_a()".toList
  effects := " throws".toList
  body := "session.nextData = jsonData(named: \"".toList ++
    "XCTAssertEqual(session.lastURL?., \") // \"u\")".toList
  text := "func test_a() throws \x7bsession.nextData = jsonData(named: \"".toList ++
    "XCTAssertEqual(session.lastURL?., \") // \"u\")\n    \x7d".toList

theorem migrate_not_unified_openedTest :
    (findAll openedTest.text).map Scan.Located.value = [openedTest] ∧
      Text.occursIn (Settings.marker {}) openedTest.body = false ∧
      ∃ staging assertion : Scan.Located Statement,
        Scan.all staging? Statement.text openedTest.body = [staging] ∧
        Scan.all assertion? Statement.text openedTest.body = [assertion] ∧
        staging.value.argument ≠ [] ∧ assertion.value.argument ≠ [] ∧
        ¬ Sites.Unified (Settings.call {} assertion.value.argument staging.value.argument)
          (migrateBody {} staging.value.argument assertion.value.argument openedTest.body) := by
  have hfound : read? openedTest.text = some openedTest := by rfl
  refine ⟨findAll_text (read?_eq_some_iff.mp hfound).1, by decide,
    ⟨0, ⟨stagingOpening, "XCTAssertEqual(session.lastURL?., ".toList, argumentEnd⟩⟩,
    ⟨36, ⟨assertionOpening ++ [] ++ expectedOpening, ") // \"u".toList, argumentEnd ++ []⟩⟩,
    by rfl, by rfl, by decide, by decide, ?_⟩
  intro hunified
  exact absurd (Text.occursIn_iff.mpr hunified.once.occurs) (by decide +kernel)

end StagedMocks.TestFunction
