import StagedMocks.Edit
import StagedMocks.TestFunction.Reader
import StagedMocks.Migration.Function

/-!
The migration of a whole source: each test function that changes becomes an edit
of its range, and the edits are applied together.
-/
namespace StagedMocks

structure Report where
  name : Text
  outcome : Outcome
  deriving DecidableEq, Repr

structure MigratedSource where
  text : Text
  functions : List Report
  events : List Event
  deriving DecidableEq, Repr

def MigratedSource.count (source : MigratedSource) (outcome : Outcome) : Nat :=
  source.functions.countP (·.outcome = outcome)

namespace Source

structure Step where
  start : Nat
  function : TestFunction
  migrated : MigratedFunction

def steps (settings : Settings) (source : Text) : List Step :=
  (TestFunction.findAll source).map fun found =>
    ⟨found.start, found.value, found.value.migrate settings⟩

/-- The edit of a function, if its text changes. -/
def Step.edit? (source : Text) (step : Step) : Except Edit.Fault (Option Edit) :=
  Edit.ofChange? source step.start (step.start + step.function.text.byteLength) step.migrated.text

def Step.report (step : Step) : Report :=
  ⟨step.function.name, step.migrated.outcome⟩

def migrate (settings : Settings) (source : Text) : Except Edit.Fault MigratedSource := do
  let steps := steps settings source
  let edits ← steps.mapM (Step.edit? source)
  let text ← Edit.applyAll source (edits.filterMap id)
  return { text
           functions := steps.map Step.report
           events := steps.flatMap fun step => step.migrated.events }

end Source

end StagedMocks
