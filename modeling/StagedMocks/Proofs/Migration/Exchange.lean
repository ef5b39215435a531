import StagedMocks.Proofs.Migration.Call
import StagedMocks.Proofs.Migration.Function

/-!
The rewritten body in full. Whatever the helper and its method are called, a call whose URL,
helper and method hold no assertion's opening brings no assertion into the body, and what is
read behind it is what was read behind the staging. So where the first two statements stand
apart from each other, one becomes the call, the other goes, and all the rest stays.
-/
namespace StagedMocks.Sites

open Statement

variable {body : Text} (sites : Sites body)

/-- A call up to the quote in front of its payload. -/
def callLead (settings : Settings) (url : Text) : Text :=
  callWord ++ (settings.helper ++ ("(.".toList ++ (settings.method ++
    (", \"".toList ++ (url ++ callMiddle.dropLast)))))

theorem call_eq_lead (settings : Settings) (url payload : Text) :
    settings.call url payload = (callLead settings url ++ ['"']) ++ (payload ++ callClosing) := by
  have hmiddle : callMiddle = callMiddle.dropLast ++ ['"'] := by decide
  have hcall : settings.call url payload = callWord ++ settings.helper ++ "(.".toList ++
      settings.method ++ ", \"".toList ++ url ++ callMiddle ++ payload ++ callClosing := rfl
  rw [hcall, hmiddle, callLead]
  simp only [List.append_assoc]

/-- An opening cannot lie across the call's own punctuation, so it would stand in one of the
three names. -/
theorem opening_not_infix_callLead {settings : Settings} {url : Text}
    (hplain : ∀ part ∈ [url, settings.helper, settings.method], ¬ assertionOpening <:+: part) :
    ∀ opening ∈ assertionOpenings, ¬ opening <:+: callLead settings url ++ ['"'] := by
  have hbegins : ∀ opening ∈ assertionOpenings, assertionOpening <:+: opening := by
    simp only [← Text.occursIn_iff]
    decide
  have hsplit : callLead settings url ++ ['"'] = callWord ++ (settings.helper ++
      ("(.".toList ++ (settings.method ++ ',' :: ([' ', '"'] ++
        (url ++ '"' :: callMiddle.tail))))) := by
    have hcomma : ", \"".toList = [','] ++ [' ', '"'] := by decide
    have hmiddle : callMiddle.dropLast ++ ['"'] = '"' :: callMiddle.tail := by decide
    rw [callLead, hcomma]
    simp only [List.append_assoc, hmiddle]
    rfl
  have hhead : assertionOpening.head? = some 'X' := by decide
  have hcomma : ',' ∉ assertionOpening := by decide
  have hquote : '"' ∉ assertionOpening := by decide
  have hparen : Text.Apart assertionOpening "(.".toList := by decide
  have htail : ¬ assertionOpening <:+: callMiddle.tail := by
    rw [← Text.occursIn_iff]
    decide
  intro opening hopening hin
  have hin := (hbegins opening hopening).trans hin
  rw [hsplit] at hin
  have hin := Text.infix_of_head_not_mem hhead (by decide) hin
  obtain hin | hin | hacross := Text.infix_append_iff.mp hin
  · exact hplain _ (by simp) hin
  · have hin := Text.infix_of_head_not_mem hhead (by decide) hin
    obtain hin | hin := (Text.infix_append_cons_iff hcomma).mp hin
    · exact hplain _ (by simp) hin
    · have hin := Text.infix_of_head_not_mem hhead (by decide) hin
      obtain hin | hin := (Text.infix_append_cons_iff hquote).mp hin
      · exact hplain _ (by simp) hin
      · exact htail hin
  · exact hparen.not_across hacross

theorem call_word (settings : Settings) (url payload : Text) :
    ∃ rest, settings.call url payload = callWord ++ rest := by
  rw [call_eq_lead, callLead]
  simp only [List.append_assoc]
  exact ⟨_, rfl⟩

/-- The call takes the place of the staging before the assertion is looked for. -/
theorem migrateBody_eq_replaceFirst (settings : Settings) :
    TestFunction.migrateBody settings sites.payload sites.url body =
      Scan.replaceFirst assertion? text []
        (sites.front ++ (settings.call sites.url sites.payload ++ sites.back)) := by
  rw [TestFunction.migrateBody, Scan.replaceFirst_eq sites.staging_first]

theorem migrateBody_stagingFirst (settings : Settings) {mid : Text}
    (hplain : ∀ part ∈ [sites.url, settings.helper, settings.method],
      ¬ assertionOpening <:+: part)
    (hbefore : sites.before = sites.front ++ (sites.staging ++ mid))
    (hback : sites.back = mid ++ (sites.assertion.text ++ sites.behind)) :
    TestFunction.migrateBody settings sites.payload sites.url body =
      sites.front ++ (settings.call sites.url sites.payload ++ (mid ++ sites.behind)) := by
  obtain ⟨rest, hword⟩ := call_word settings sites.url sites.payload
  have hsilent : Scan.Silent assertion? sites.staging sites.back →
      Scan.Silent assertion? (settings.call sites.url sites.payload) sites.back := by
    rw [call_eq_lead]
    exact sites.silent_call_of_lead (opening_not_infix_callLead hplain)
  have hfirst := sites.first?_exchanged_stagingFirst hword hsilent hbefore hback
  rw [migrateBody_eq_replaceFirst, Scan.replaceFirst_eq hfirst, List.nil_append]
  simp only [List.append_assoc]

theorem migrateBody_assertionFirst (settings : Settings) {mid : Text}
    (hfront : sites.front = sites.before ++ (sites.assertion.text ++ mid))
    (hbehind : sites.behind = mid ++ (sites.staging ++ sites.back)) :
    TestFunction.migrateBody settings sites.payload sites.url body =
      sites.before ++ (mid ++ (settings.call sites.url sites.payload ++ sites.back)) := by
  obtain ⟨rest, hword⟩ := call_word settings sites.url sites.payload
  have hfirst := sites.first?_exchanged_assertionFirst hword hfront hbehind
  rw [migrateBody_eq_replaceFirst, Scan.replaceFirst_eq hfirst, List.nil_append]

/-- Two statements that stand apart leave a text between them. -/
theorem exists_mid_of_apart
    (hapart : (sites.front ++ sites.staging).byteLength ≤ sites.before.byteLength ∨
      (sites.before ++ sites.assertion.text).byteLength ≤ sites.front.byteLength) :
    (∃ mid, sites.before = sites.front ++ (sites.staging ++ mid) ∧
      sites.back = mid ++ (sites.assertion.text ++ sites.behind)) ∨
    ∃ mid, sites.front = sites.before ++ (sites.assertion.text ++ mid) ∧
      sites.behind = mid ++ (sites.staging ++ sites.back) := by
  have hparts := sites.parts_eq
  rw [← List.append_assoc, ← List.append_assoc sites.front] at hparts
  obtain hle | hle := hapart
  · rw [List.append_assoc sites.before] at hparts
    obtain ⟨mid, hbefore, hback⟩ := Text.append_eq_append_of_byteLength_le hparts.symm hle
    exact .inl ⟨mid, by rw [hbefore, List.append_assoc], hback⟩
  · rw [List.append_assoc sites.front] at hparts
    obtain ⟨mid, hfront, hbehind⟩ := Text.append_eq_append_of_byteLength_le hparts hle
    exact .inr ⟨mid, by rw [hfront, List.append_assoc], hbehind⟩

end StagedMocks.Sites

namespace StagedMocks.TestFunction

open Statement

theorem ofBody_of_first? {body front back before behind : Text} {staging assertion : Statement}
    (hstaging : Scan.first? staging? Statement.text body = some (front, staging, back))
    (hassertion : Scan.first? assertion? Statement.text body = some (before, assertion, behind))
    (hpayload : staging.argument ≠ []) (hurl : assertion.argument ≠ []) :
    LegacyUse.ofBody body = ⟨some staging.argument, some assertion.argument⟩ := by
  rw [LegacyUse.ofBody, firstArgument?_eq_some_iff.mpr ⟨_, _, _, hstaging, rfl, hpayload⟩,
    firstArgument?_eq_some_iff.mpr ⟨_, _, _, hassertion, rfl, hurl⟩]

/-- A body whose first staging and first assertion stand apart becomes the body with the call in
the place of the one and without the other, if neither the URL nor the settings hold an
assertion's opening. -/
theorem migrate_exchanges (settings : Settings) (function : TestFunction)
    {front back before behind : Text} {staging assertion : Statement}
    (hmarker : Text.occursIn settings.marker function.body = false)
    (hstaging : Scan.first? staging? Statement.text function.body = some (front, staging, back))
    (hassertion : Scan.first? assertion? Statement.text function.body =
      some (before, assertion, behind))
    (hpayload : staging.argument ≠ []) (hurl : assertion.argument ≠ [])
    (hapart : front.byteLength + staging.text.byteLength ≤ before.byteLength ∨
      before.byteLength + assertion.text.byteLength ≤ front.byteLength)
    (hplain : ∀ part ∈ [assertion.argument, settings.helper, settings.method],
      ¬ assertionOpening <:+: part) :
    (function.migrate settings).outcome = .migrated ∧
      (function.migrate settings).text = function.throwingHeader ++
        migrateBody settings staging.argument assertion.argument function.body ++ plainClosing ∧
      ((∃ mid, function.body = front ++ staging.text ++ mid ++ assertion.text ++ behind ∧
          migrateBody settings staging.argument assertion.argument function.body =
            front ++ settings.call assertion.argument staging.argument ++ mid ++ behind) ∨
        ∃ mid, function.body = before ++ assertion.text ++ mid ++ staging.text ++ back ∧
          migrateBody settings staging.argument assertion.argument function.body =
            before ++ mid ++ settings.call assertion.argument staging.argument ++ back) := by
  obtain ⟨houtcome, htext⟩ :=
    migrate_of_use hmarker (ofBody_of_first? hstaging hassertion hpayload hurl)
  refine ⟨houtcome, htext, ?_⟩
  have hshape := staging_of_first? hstaging
  rw [hshape] at hstaging
  let sites : Sites function.body :=
    ⟨front, staging.argument, back, before, assertion, behind, hstaging, hassertion⟩
  have hspell : staging.text = sites.staging := by
    rw [hshape]
    exact List.append_assoc _ _ _
  rw [hspell] at hapart ⊢
  rw [← Text.byteLength_append, ← Text.byteLength_append] at hapart
  obtain ⟨mid, hbefore, hback⟩ | ⟨mid, hfront, hbehind⟩ := sites.exists_mid_of_apart hapart
  · refine .inl ⟨mid, ?_, ?_⟩
    · refine sites.staging_spec.1.trans ?_
      rw [hback]
      simp only [List.append_assoc, sites]
    · refine (sites.migrateBody_stagingFirst settings hplain hbefore hback).trans ?_
      simp only [List.append_assoc, sites, Sites.url]
  · refine .inr ⟨mid, ?_, ?_⟩
    · refine sites.assertion_spec.1.trans ?_
      rw [hbehind]
      simp only [List.append_assoc, sites]
    · refine (sites.migrateBody_assertionFirst settings hfront hbehind).trans ?_
      simp only [List.append_assoc, sites, Sites.url]

/-- A body with two statements of each kind. Its first line opens an assertion that nothing
closes, and so does the payload of its first staging. -/
def twiceStagedBody : Text :=
  "// XCTAssertEqual(session.lastURL?., \"\n".toList ++
    "session.nextData = jsonData(named: \"é$1XCTAssertEqual(session.lastURL?., \")\n".toList ++
    "XCTAssertEqual(session.lastURL?.absoluteString, \"/1?q=$0\")\n".toList ++
    "session.nextData = jsonData(named: \"b\")\n".toList ++
    "XCTAssertEqual(session.lastURL?., \"/2\")".toList

def twiceStagedTest : TestFunction where
  header := "func test_a() throws \x7b".toList
  declaration := "func test_a()".toList
  effects := " throws".toList
  body := twiceStagedBody
  text := "func test_a() throws \x7b".toList ++ twiceStagedBody ++ plainClosing

theorem migrate_exchanges_twiceStagedTest :
    (twiceStagedTest.migrate ⟨"fetch".toList, "POST".toList⟩).outcome = .migrated ∧
      ∃ mid, twiceStagedBody = twiceStagedBody.take 39 ++
          (stagingOpening ++ "é$1XCTAssertEqual(session.lastURL?., ".toList ++ argumentEnd) ++ mid ++
          (assertionOpening ++ accessor ++ expectedOpening ++ "/1?q=$0".toList ++
            (argumentEnd ++ ['\n'])) ++ twiceStagedBody.drop 174 ∧
        migrateBody ⟨"fetch".toList, "POST".toList⟩
            "é$1XCTAssertEqual(session.lastURL?., ".toList "/1?q=$0".toList twiceStagedBody =
          twiceStagedBody.take 39 ++ Settings.call ⟨"fetch".toList, "POST".toList⟩ "/1?q=$0".toList
            "é$1XCTAssertEqual(session.lastURL?., ".toList ++ mid ++ twiceStagedBody.drop 174 := by
  have h := @migrate_exchanges ⟨"fetch".toList, "POST".toList⟩ twiceStagedTest
    (twiceStagedBody.take 39) (twiceStagedBody.drop 114) (twiceStagedBody.take 115)
    (twiceStagedBody.drop 174)
    ⟨stagingOpening, "é$1XCTAssertEqual(session.lastURL?., ".toList, argumentEnd⟩
    ⟨assertionOpening ++ accessor ++ expectedOpening, "/1?q=$0".toList, argumentEnd ++ ['\n']⟩
    (by decide +kernel) (by decide +kernel) (by decide +kernel) (by decide) (by decide)
    (by decide +kernel) ?_
  · obtain ⟨houtcome, _, hfirst | ⟨mid, hbody, _⟩⟩ := h
    · exact ⟨houtcome, hfirst⟩
    · have hlength := congrArg List.length hbody
      have hshort : twiceStagedTest.body.length <
          (twiceStagedBody.take 115).length + (twiceStagedBody.drop 114).length := by
        decide +kernel
      simp only [List.length_append] at hlength
      omega
  · simp only [← Text.occursIn_iff]
    decide +kernel

end StagedMocks.TestFunction
