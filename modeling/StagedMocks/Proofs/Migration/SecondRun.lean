import StagedMocks.Proofs.Migration.Idempotence

/-!
What a second migration reports. As long as the exchange of statements leaves a call of the
helper and no closing line in the new body, every function is found again as a whole, and each
kind of function is a fixed point: those that call the helper now count as migrated, and those
that only had their signature changed throw already.
-/
namespace StagedMocks

/-- The outcome of a second migration, by that of the first. -/
def Outcome.again : Outcome → Outcome
  | .signatureOnly => .signatureOnly
  | .alreadyMigrated | .migrated => .alreadyMigrated

namespace TestFunction

/-- The body of a function with its statements exchanged, if it has both. -/
def migratedBody (settings : Settings) (function : TestFunction) : Text :=
  match LegacyUse.ofBody function.body with
  | ⟨some payload, some url⟩ => migrateBody settings payload url function.body
  | _ => function.body

/-- The function that a migration composes around a body. -/
def recomposed (function : TestFunction) (body : Text) : TestFunction where
  header := function.throwingHeader
  declaration := function.declaration
  effects := function.throwingEffects
  body := body
  text := function.throwingHeader ++ body ++ plainClosing

theorem recomposed_isThrowing (function : TestFunction) (body : Text) :
    (function.recomposed body).isThrowing = true :=
  decide_eq_true function.throws_mem_throwingEffects

theorem unclosed_nil_iff {body : Text} :
    Unclosed body [] ↔ ∀ closing, IsClosing closing → ¬ closing <:+: body := by
  constructor
  · intro h closing hc hin
    obtain ⟨e, hp, hs⟩ := List.infix_iff_prefix_suffix.mp hin
    have hne : e ≠ [] := by
      rintro rfl
      have hlength := hc.length_eq
      simp [List.prefix_nil.mp hp] at hlength
    refine h e hne hs closing hc ?_
    rw [List.append_nil]
    exact hp
  · intro h e _ hs closing hc hp
    rw [List.append_nil] at hp
    exact h closing hc (hp.isInfix.trans hs.isInfix)

theorem recomposed_grammatical {function : TestFunction} (hg : function.Grammatical) {body : Text}
    (h : Unclosed body []) : (function.recomposed body).Grammatical :=
  ⟨throwingHeader_isHeader hg.isHeader, plainClosing, plainClosing_isClosing,
    h.exchange plainClosing_isClosing, rfl⟩

/-- The text of a migration by its outcome. -/
theorem migrate_outcome_cases (settings : Settings) (function : TestFunction) :
    (settings.marker <:+: function.body ∧
      (function.migrate settings).outcome = .alreadyMigrated ∧
      (function.migrate settings).text = function.text) ∨
    (¬ settings.marker <:+: function.body ∧
      (function.migrate settings).outcome = .signatureOnly ∧
      (function.migrate settings).text = (function.recomposed function.body).text) ∨
    (¬ settings.marker <:+: function.body ∧
      (function.migrate settings).outcome = .migrated ∧
      (function.migrate settings).text =
        (function.recomposed (function.migratedBody settings)).text) := by
  simp only [← Text.occursIn_iff, Bool.not_eq_true]
  obtain h | ⟨hmarker, _, h⟩ | ⟨hmarker, payload, url, huse, houtcome, htext⟩ :=
    migrate_cases settings function
  · exact .inl h
  · exact .inr (.inl ⟨hmarker, h⟩)
  · refine .inr (.inr ⟨hmarker, houtcome, ?_⟩)
    rw [htext, migratedBody, huse]
    rfl

theorem migrate_outcome_of_body {function other : TestFunction}
    (h : function.body = other.body) (settings : Settings) :
    (function.migrate settings).outcome = (other.migrate settings).outcome := by
  simp only [migrate, h]
  split
  · rfl
  · cases (LegacyUse.ofBody other.body).payload with
    | none => rfl
    | some payload => cases (LegacyUse.ofBody other.body).url <;> rfl

/-- `after` stands in the new text for `before`, and a second migration leaves it alone. -/
structure Repeats (settings : Settings) (before after : TestFunction) : Prop where
  name_eq : after.name = before.name
  outcome_eq : (after.migrate settings).outcome = (before.migrate settings).outcome.again
  text_eq : (after.migrate settings).text = after.text

theorem repeats_of_marker {settings : Settings} {before after : TestFunction}
    (hname : after.name = before.name) (hmarker : settings.marker <:+: after.body)
    (hagain : (before.migrate settings).outcome.again = .alreadyMigrated) :
    Repeats settings before after := by
  obtain ⟨_, houtcome, htext⟩ | ⟨hno, _⟩ | ⟨hno, _⟩ := migrate_outcome_cases settings after
  · exact ⟨hname, houtcome.trans hagain.symm, htext⟩
  · exact absurd hmarker hno
  · exact absurd hmarker hno

theorem repeats_recomposed {settings : Settings} {function : TestFunction}
    (h : (function.migrate settings).outcome = .signatureOnly) :
    Repeats settings function (function.recomposed function.body) := by
  have hbody : (function.recomposed function.body).body = function.body := rfl
  have hsecond := (migrate_outcome_of_body hbody settings).trans h
  refine ⟨rfl, by rw [hsecond, h, Outcome.again], ?_⟩
  obtain ⟨_, houtcome, _⟩ | ⟨_, _, htext⟩ | ⟨_, houtcome, _⟩ :=
    migrate_outcome_cases settings (function.recomposed function.body)
  · rw [houtcome] at hsecond
    cases hsecond
  · rw [htext, recomposed,
      throwingHeader_of_isThrowing (function.recomposed_isThrowing function.body)]
    rfl
  · rw [houtcome] at hsecond
    cases hsecond

/-- The new text of a function holds one function, which a second migration leaves alone, if a
body with exchanged statements calls the helper and holds no closing line. -/
theorem findAll_migrate_repeats {settings : Settings} {function : TestFunction}
    (hg : function.Grammatical)
    (h : (function.migrate settings).outcome = .migrated →
      settings.marker <:+: function.migratedBody settings ∧
      ∀ closing, IsClosing closing → ¬ closing <:+: function.migratedBody settings) :
    ∃ again, (findAll (function.migrate settings).text).map Scan.Located.value = [again] ∧
      Repeats settings function again := by
  obtain ⟨hmarker, houtcome, htext⟩ | ⟨_, houtcome, htext⟩ | ⟨_, houtcome, htext⟩ :=
    migrate_outcome_cases settings function
  · refine ⟨function, ?_, repeats_of_marker rfl hmarker (by rw [houtcome, Outcome.again])⟩
    rw [htext, findAll_text hg]
  · refine ⟨_, ?_, repeats_recomposed houtcome⟩
    rw [htext]
    exact findAll_text (rethrown_grammatical hg)
  · obtain ⟨hmarker, hclosing⟩ := h houtcome
    refine ⟨function.recomposed (function.migratedBody settings), ?_,
      repeats_of_marker rfl hmarker (by rw [houtcome, Outcome.again])⟩
    rw [htext]
    exact findAll_text (recomposed_grammatical hg (unclosed_nil_iff.mpr hclosing))

end TestFunction

namespace Source

open StagedMocks.Scan StagedMocks.TestFunction

theorem respell_congr {α : Type} {spell spell' : α → Text} {finds : List (Text × α)} {tail : Text}
    (h : ∀ find ∈ finds, spell find.2 = spell' find.2) :
    respell spell finds tail = respell spell' finds tail := by
  induction finds with
  | nil => rfl
  | cons find finds ih =>
      rw [respell_cons, respell_cons, h find List.mem_cons_self,
        ih fun other hother => h other (List.mem_cons_of_mem find hother)]

theorem map_flatMap_of_singletons {α β γ : Type} {f : α → List β} {g : β → γ} {k : α → γ}
    {l : List α} (h : ∀ a ∈ l, ∃ b, f a = [b] ∧ g b = k a) : (l.flatMap f).map g = l.map k := by
  induction l with
  | nil => rfl
  | cons a l ih =>
      obtain ⟨b, hf, hg⟩ := h a List.mem_cons_self
      rw [List.flatMap_cons, hf, List.singleton_append, List.map_cons, List.map_cons, hg,
        ih fun x hx => h x (List.mem_cons_of_mem a hx)]

/-- A report as a second migration gives it. -/
def repeatedReport (report : Report) : Report :=
  ⟨report.name, report.outcome.again⟩

/-- If every body with exchanged statements calls the helper and holds no closing line, a second
migration finds the same functions in the same order. It reports those that call the helper as
migrated already and the others as before, and it changes nothing. -/
theorem migrate_again_reports (settings : Settings) (source : Text)
    (h : ∀ found ∈ findAll source, (found.value.migrate settings).outcome = .migrated →
      settings.marker <:+: found.value.migratedBody settings ∧
      ∀ closing, IsClosing closing → ¬ closing <:+: found.value.migratedBody settings) :
    ∃ first second, migrate settings source = .ok first ∧
      migrate settings first.text = .ok second ∧
      second.functions = first.functions.map repeatedReport ∧
      second.text = first.text := by
  obtain ⟨finds, tail, cover⟩ := exists_cover read?_lawful source
  obtain ⟨finds', tail', cover', hvalues⟩ := cover_respell settings cover
  have hrepeats : ∀ function ∈ finds.map Prod.snd, ∃ again,
      (findAll (migratedText settings function)).map Located.value = [again] ∧
        Repeats settings function again := by
    intro function hfunction
    rw [← cover.all_values read?_lawful, List.mem_map] at hfunction
    obtain ⟨found, hfound, rfl⟩ := hfunction
    exact findAll_migrate_repeats (grammatical_of_mem_findAll hfound) (h found hfound)
  refine ⟨_, _, migrate_eq settings cover, migrate_eq settings cover', ?_, ?_⟩
  · rw [hvalues, List.map_map]
    apply map_flatMap_of_singletons
    intro function hfunction
    obtain ⟨again, hagain, hrepeat⟩ := hrepeats function hfunction
    refine ⟨again, hagain, ?_⟩
    rw [hrepeat.name_eq, hrepeat.outcome_eq]
    rfl
  · -- Every function of the new text is the one that stands for a function of the old text.
    refine (respell_congr fun find hfind => ?_).trans cover'.respell_eq
    have hmem := List.mem_map_of_mem (f := Prod.snd) hfind
    rw [hvalues] at hmem
    obtain ⟨function, hfunction, hmem⟩ := List.mem_flatMap.mp hmem
    obtain ⟨again, hagain, hrepeat⟩ := hrepeats function hfunction
    rw [hagain, List.mem_singleton] at hmem
    rw [hmem]
    exact hrepeat.text_eq

/-- A function with both statements, one with neither, and one that calls the helper. -/
def mixedSource : Text :=
  "func test_a() \x7b\n        session.nextData = jsonData(named: \"f\")\n".toList ++
  "        XCTAssertEqual(session.lastURL?.absoluteString, \"u\")\n    \x7d\n".toList ++
  "func test_b() async \x7b\n\t\t\t\t\x7d\n".toList ++
  "func test_c() \x7b\n        try mock(.GET)\n    \x7d\n".toList

theorem migrate_again_mixedSource :
    (findAll mixedSource).map (fun found => (found.value.migrate {}).outcome) =
      [.migrated, .signatureOnly, .alreadyMigrated] ∧
    (∀ found ∈ findAll mixedSource, (found.value.migrate {}).outcome = .migrated →
      Settings.marker {} <:+: found.value.migratedBody {} ∧
      ∀ closing, IsClosing closing → ¬ closing <:+: found.value.migratedBody {}) ∧
    ∃ first second, migrate {} mixedSource = .ok first ∧ migrate {} first.text = .ok second ∧
      second.functions = first.functions.map repeatedReport ∧ second.text = first.text := by
  have hfound : ∀ found ∈ findAll mixedSource, (found.value.migrate {}).outcome = .migrated →
      Text.occursIn (Settings.marker {}) (found.value.migratedBody {}) = true ∧
      bodyAndClosing? (found.value.migratedBody {}) = none := by
    decide +kernel
  have hlasting : ∀ found ∈ findAll mixedSource, (found.value.migrate {}).outcome = .migrated →
      Settings.marker {} <:+: found.value.migratedBody {} ∧
      ∀ closing, IsClosing closing → ¬ closing <:+: found.value.migratedBody {} := by
    intro found hin houtcome
    obtain ⟨hmarker, hnone⟩ := hfound found hin houtcome
    refine ⟨Text.occursIn_iff.mp hmarker, ?_⟩
    intro closing hc hinfix
    obtain ⟨e, hp, hs⟩ := List.infix_iff_prefix_suffix.mp hinfix
    exact bodyAndClosing?_eq_none_iff.mp hnone e closing hs hc hp
  exact ⟨by decide +kernel, hlasting, migrate_again_reports {} mixedSource hlasting⟩

end Source

end StagedMocks
