import StagedMocks.Proofs.Migration.Extraction
import StagedMocks.Proofs.Migration.Splice

/-!
What a migration tells of its functions. Of each one it tells that it was found, what its statements
name unless its body calls the helper, and what became of it; the report says the same. Over a
source these accounts follow one another as the functions do, so the reports can be told from the
events, and each function is counted under one outcome.
-/
namespace StagedMocks

/-- The report that an event makes up. -/
def Event.report? : Event → Option Report
  | .outcome name result => some ⟨name, result⟩
  | .found _ _ | .legacyUse _ _ => none

namespace TestFunction

/-- The events told of a function, and its report. -/
structure Account (settings : Settings) (function : TestFunction) (told : List Event)
    (report : Report) : Prop where
  name_eq : report.name = function.name
  told_marked : settings.marker <:+: function.body →
    told = [.found function.name function.body, .outcome function.name report.outcome]
  told_searched : ¬ settings.marker <:+: function.body →
    ∃ use, LegacyUse.Taken function.body use ∧
      told = [.found function.name function.body, .legacyUse function.name use,
        .outcome function.name report.outcome]
  migrated_iff : report.outcome = .migrated ↔
    ∃ payload url, .legacyUse function.name ⟨some payload, some url⟩ ∈ told
  alreadyMigrated_iff : report.outcome = .alreadyMigrated ↔ settings.marker <:+: function.body

theorem migrate_account (settings : Settings) (function : TestFunction) :
    Account settings function (function.migrate settings).events
      ⟨function.name, (function.migrate settings).outcome⟩ := by
  have hmarked := @Text.occursIn_iff settings.marker function.body
  cases hoccurs : Text.occursIn settings.marker function.body with
  | true =>
      have hin := hmarked.mp hoccurs
      refine ⟨rfl, fun _ => ?_, fun hout => absurd hin hout, ?_, ?_⟩
      · simp [migrate, hoccurs]
      · simp [migrate, hoccurs]
      · simp [migrate, hoccurs, hin]
  | false =>
      have hout : ¬ settings.marker <:+: function.body := by
        rw [← hmarked, hoccurs]
        exact Bool.false_ne_true
      refine ⟨rfl, fun hin => absurd hin hout, fun _ => ⟨_, LegacyUse.ofBody_taken _, ?_⟩, ?_, ?_⟩
      · simp [migrate, hoccurs]
      -- Both values stand in the event exactly if they stand in what was extracted.
      · cases huse : LegacyUse.ofBody function.body with
        | mk payload url => cases payload <;> cases url <;> simp [migrate, hoccurs, huse]
      · cases huse : LegacyUse.ofBody function.body with
        | mk payload url => cases payload <;> cases url <;> simp [migrate, hoccurs, huse, hout]

theorem Account.report_eq {settings : Settings} {function : TestFunction} {told : List Event}
    {report : Report} (h : Account settings function told report) :
    told.filterMap Event.report? = [report] := by
  obtain ⟨name, outcome⟩ := report
  obtain rfl : name = function.name := h.name_eq
  by_cases hmarked : settings.marker <:+: function.body
  · rw [h.told_marked hmarked]
    rfl
  · obtain ⟨_, _, htold⟩ := h.told_searched hmarked
    rw [htold]
    rfl

/-- The events and the reports of functions in a row. -/
inductive Chronicle (settings : Settings) :
    List TestFunction → List Event → List Report → Prop where
  | nil : Chronicle settings [] [] []
  | cons {function : TestFunction} {told : List Event} {report : Report}
      {functions : List TestFunction} {events : List Event} {reports : List Report} :
      Account settings function told report → Chronicle settings functions events reports →
      Chronicle settings (function :: functions) (told ++ events) (report :: reports)

section Chronicle

variable {settings : Settings} {functions : List TestFunction} {events : List Event}
  {reports : List Report}

theorem chronicle_migrate (settings : Settings) (functions : List TestFunction) :
    Chronicle settings functions
      (functions.flatMap fun function => (function.migrate settings).events)
      (functions.map fun function => ⟨function.name, (function.migrate settings).outcome⟩) := by
  induction functions with
  | nil => exact .nil
  | cons function functions ih => exact .cons (migrate_account settings function) ih

/-- The reports are those that the events make up. -/
theorem Chronicle.reports_eq (h : Chronicle settings functions events reports) :
    reports = events.filterMap Event.report? := by
  induction h with
  | nil => rfl
  | cons account _ ih => rw [List.filterMap_append, account.report_eq, ← ih, List.singleton_append]

theorem Chronicle.length_eq (h : Chronicle settings functions events reports) :
    reports.length = functions.length := by
  induction h with
  | nil => rfl
  | cons _ _ ih => rw [List.length_cons, List.length_cons, ih]

end Chronicle

end TestFunction

/-- Each function is counted under one outcome. -/
theorem MigratedSource.sum_count (source : MigratedSource) :
    source.count .migrated + source.count .signatureOnly + source.count .alreadyMigrated =
      source.functions.length := by
  simp only [count]
  induction source.functions with
  | nil => rfl
  | cons report reports ih =>
      simp only [List.countP_cons, List.length_cons]
      cases report.outcome <;> simp <;> omega

namespace Source

open StagedMocks.TestFunction

/-- A migration tells of each function in turn, and its reports repeat what the events say. Every
function of the source is counted under one outcome. -/
theorem migrate_chronicle (settings : Settings) (source : Text) :
    ∃ result, migrate settings source = .ok result ∧
      Chronicle settings ((findAll source).map Scan.Located.value) result.events
        result.functions ∧
      result.functions = result.events.filterMap Event.report? ∧
      result.count .migrated + result.count .signatureOnly + result.count .alreadyMigrated =
        (findAll source).length := by
  obtain ⟨finds, tail, cover⟩ := Scan.exists_cover read?_lawful source
  have hvalues : (findAll source).map Scan.Located.value = finds.map Prod.snd :=
    cover.all_values read?_lawful
  have hchronicle := chronicle_migrate settings (finds.map Prod.snd)
  refine ⟨_, migrate_eq settings cover, hvalues ▸ hchronicle, hchronicle.reports_eq, ?_⟩
  rw [MigratedSource.sum_count, hchronicle.length_eq, ← hvalues, List.length_map]

end Source

end StagedMocks
