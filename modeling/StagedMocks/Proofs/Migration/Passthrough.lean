import StagedMocks.Proofs.Migration.Splice
import StagedMocks.Proofs.Migration.Function

/-!
What a migration leaves alone. The outcome of a function is told by its body: by the helper's
marker first, and then by whether the first statement of each kind names something. Without an
exchange of statements the body stays, so a source in which none were exchanged stays exactly if
each of its functions calls the helper or throws and has a plain closing line.
-/
namespace StagedMocks

/-- The first statement of a kind in a body has an argument. -/
def Statement.Names (read? : Text → Option Statement) (body : Text) : Prop :=
  ∃ before statement behind,
    Scan.first? read? Statement.text body = some (before, statement, behind) ∧
      statement.argument ≠ []

theorem Statement.names_iff {read? : Text → Option Statement} {body : Text} :
    Names read? body ↔ firstArgument? read? body ≠ none := by
  rw [Option.ne_none_iff_exists']
  simp only [firstArgument?_eq_some_iff]
  constructor
  · rintro ⟨before, statement, behind, hfirst, hne⟩
    exact ⟨_, before, statement, behind, hfirst, rfl, hne⟩
  · rintro ⟨_, before, statement, behind, hfirst, rfl, hne⟩
    exact ⟨before, statement, behind, hfirst, hne⟩

namespace TestFunction

open Statement (Names staging? assertion?)

/-- The three outcomes of a function, and the texts of the two that keep its body. -/
structure Decided (settings : Settings) (function : TestFunction) : Prop where
  alreadyMigrated_iff :
    (function.migrate settings).outcome = .alreadyMigrated ↔ settings.marker <:+: function.body
  verbatim : settings.marker <:+: function.body →
    (function.migrate settings).text = function.text
  migrated_iff : ¬ settings.marker <:+: function.body →
    ((function.migrate settings).outcome = .migrated ↔
      Names staging? function.body ∧ Names assertion? function.body)
  signatureOnly_iff : ¬ settings.marker <:+: function.body →
    ((function.migrate settings).outcome = .signatureOnly ↔
      ¬ (Names staging? function.body ∧ Names assertion? function.body))
  body_kept : (function.migrate settings).outcome = .signatureOnly →
    (function.migrate settings).text = function.throwingHeader ++ function.body ++ plainClosing

theorem migrate_decision (settings : Settings) (function : TestFunction) :
    (settings.marker <:+: function.body ∧
      (function.migrate settings).outcome = .alreadyMigrated ∧
      (function.migrate settings).text = function.text) ∨
    (¬ settings.marker <:+: function.body ∧
      ¬ (Names staging? function.body ∧ Names assertion? function.body) ∧
      (function.migrate settings).outcome = .signatureOnly ∧
      (function.migrate settings).text =
        function.throwingHeader ++ function.body ++ plainClosing) ∨
    (¬ settings.marker <:+: function.body ∧
      (Names staging? function.body ∧ Names assertion? function.body) ∧
      (function.migrate settings).outcome = .migrated) := by
  simp only [← Text.occursIn_iff, Statement.names_iff]
  obtain hmarked | ⟨hmarker, hnone, hsignature⟩ | ⟨hmarker, payload, url, huse, houtcome, _⟩ :=
    migrate_cases settings function
  · exact .inl hmarked
  · right
    left
    refine ⟨ne_true_of_eq_false hmarker, ?_, hsignature⟩
    rintro ⟨hpayload, hurl⟩
    exact hnone.elim hpayload hurl
  · right
    right
    obtain ⟨hpayload, hurl⟩ := LegacyUse.mk.inj huse
    rw [hpayload, hurl]
    exact ⟨ne_true_of_eq_false hmarker, ⟨Option.some_ne_none payload, Option.some_ne_none url⟩,
      houtcome⟩

theorem migrate_decided (settings : Settings) (function : TestFunction) :
    Decided settings function := by
  obtain ⟨hmarker, houtcome, htext⟩ | ⟨hmarker, hnames, houtcome, htext⟩ |
      ⟨hmarker, hnames, houtcome⟩ := migrate_decision settings function
  · constructor <;> simp [hmarker, houtcome, htext]
  · constructor <;> simp [hmarker, hnames, houtcome, htext]
  · constructor <;> simp [hmarker, hnames, houtcome]

/-- Nothing behind a function makes up for a change of its text, if its statements were not
exchanged. -/
theorem migrate_text_of_append {settings : Settings} {function : TestFunction}
    (hg : function.Grammatical) (h : (function.migrate settings).outcome ≠ .migrated)
    {rest rest' : Text}
    (happend : (function.migrate settings).text ++ rest' = function.text ++ rest) :
    (function.migrate settings).text = function.text := by
  obtain ⟨_, _, htext⟩ | ⟨_, _, _, htext⟩ | ⟨_, _, houtcome⟩ := migrate_decision settings function
  · exact htext
  · rw [htext] at happend ⊢
    obtain ⟨hthrows, hplain⟩ := plain_of_append hg happend
    rw [throwingHeader_of_isThrowing hthrows, hplain]
  · exact absurd houtcome h

theorem migrate_text_eq_iff {settings : Settings} {function : TestFunction}
    (hg : function.Grammatical) (h : (function.migrate settings).outcome ≠ .migrated) :
    (function.migrate settings).text = function.text ↔
      (function.migrate settings).outcome = .alreadyMigrated ∨
        "throws".toList ∈ function.keywords ∧
          function.text = function.header ++ function.body ++ plainClosing := by
  obtain ⟨_, houtcome, htext⟩ | ⟨_, _, houtcome, htext⟩ | ⟨_, _, houtcome⟩ :=
    migrate_decision settings function
  · simp only [houtcome, htext, true_or]
  · simp only [houtcome, htext, reduceCtorEq, false_or]
    constructor
    · intro hsame
      obtain ⟨hthrows, hplain⟩ := plain_of_append hg (congrArg (· ++ []) hsame)
      exact ⟨isThrowing_iff.mp hthrows, hplain⟩
    · rintro ⟨hthrows, hplain⟩
      rw [throwingHeader_of_isThrowing (isThrowing_iff.mpr hthrows), hplain]
  · exact absurd houtcome h

end TestFunction

namespace Source

open StagedMocks.Scan StagedMocks.TestFunction

/-- Each function has the outcome that its body tells. A source none of whose statements were
exchanged keeps its text exactly if each of its functions was left alone, or throws already and has
a plain closing line. -/
theorem migrate_keeps_iff (settings : Settings) (source : Text) :
    (∀ found ∈ findAll source, Decided settings found.value) ∧
    ((∀ found ∈ findAll source, (found.value.migrate settings).outcome ≠ .migrated) →
      ∃ result, migrate settings source = .ok result ∧
        (result.text = source ↔ ∀ found ∈ findAll source,
          (found.value.migrate settings).outcome = .alreadyMigrated ∨
            "throws".toList ∈ found.value.keywords ∧
              found.value.text = found.value.header ++ found.value.body ++ plainClosing)) := by
  refine ⟨fun found _ => migrate_decided settings found.value, fun hstays => ?_⟩
  obtain ⟨finds, tail, cover⟩ := exists_cover read?_lawful source
  have hfinds := (cover.forall_iff read?_lawful fun function =>
    (function.migrate settings).outcome ≠ .migrated).mpr hstays
  refine ⟨_, migrate_eq settings cover, ?_⟩
  rw [cover.respell_eq_iff fun find hfind _ _ => migrate_text_of_append
    (grammatical_of_mem_finds cover find hfind) (hfinds find hfind)]
  refine Iff.trans ?_ (cover.forall_iff read?_lawful fun function =>
    (function.migrate settings).outcome = .alreadyMigrated ∨
      "throws".toList ∈ function.keywords ∧
        function.text = function.header ++ function.body ++ plainClosing)
  exact forall₂_congr fun find hfind =>
    migrate_text_eq_iff (grammatical_of_mem_finds cover find hfind) (hfinds find hfind)

/-- A function that calls the helper, with tabs before its closing brace, and one that throws. -/
def restingSource : Text :=
  "func test_a() \x7b\n        try mock(.GET)\n\t\t\t\t\x7d\n".toList ++
  "func test_b() async\n    throws\x7b\n        XCTAssertEqual(session.lastURL?., \"\")\n    \x7d".toList

theorem migrate_keeps_iff_restingSource :
    (∀ found ∈ findAll restingSource, (found.value.migrate {}).outcome ≠ .migrated) ∧
    (findAll restingSource).map (fun found => (found.value.migrate {}).outcome) =
      [.alreadyMigrated, .signatureOnly] ∧
    ∃ result, migrate {} restingSource = .ok result ∧ result.text = restingSource := by
  have hstays : ∀ found ∈ findAll restingSource, (found.value.migrate {}).outcome ≠ .migrated := by
    decide +kernel
  have hplain : ∀ found ∈ findAll restingSource,
      (found.value.migrate {}).outcome = .alreadyMigrated ∨
        "throws".toList ∈ found.value.keywords ∧
          found.value.text = found.value.header ++ found.value.body ++ plainClosing := by
    decide +kernel
  obtain ⟨-, hkeeps⟩ := migrate_keeps_iff {} restingSource
  obtain ⟨result, hresult, hiff⟩ := hkeeps hstays
  exact ⟨hstays, by decide +kernel, result, hresult, hiff.mpr hplain⟩

end Source

end StagedMocks
