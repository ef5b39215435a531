import StagedMocks.Statement
import StagedMocks.TestFunction.Basic
import StagedMocks.Settings.Basic

/-!
The migration of one test function.

A body that already calls the helper is left alone. Every other function is
declared as throwing, and where both legacy statements name something, the
staging becomes the helper's call and the assertion goes.
-/
namespace StagedMocks

inductive Outcome where
  | alreadyMigrated
  | signatureOnly
  | migrated
  deriving DecidableEq, Repr

namespace Outcome

def label : Outcome → String
  | .alreadyMigrated => "already migrated"
  | .signatureOnly => "signature only"
  | .migrated => "rewritten"

end Outcome

/-- What the legacy statements of a body name. -/
structure LegacyUse where
  payload : Option Text
  url : Option Text
  deriving DecidableEq, Repr

/-- The payload and the URL of the first statement of each kind. -/
def LegacyUse.ofBody (body : Text) : LegacyUse where
  payload := Statement.firstArgument? Statement.staging? body
  url := Statement.firstArgument? Statement.assertion? body

inductive Event where
  | found (name body : Text)
  | legacyUse (name : Text) (use : LegacyUse)
  | outcome (name : Text) (outcome : Outcome)
  deriving DecidableEq, Repr

structure MigratedFunction where
  text : Text
  outcome : Outcome
  events : List Event
  deriving DecidableEq, Repr

namespace TestFunction

/-- The closing line of every text that a migration composes. -/
def plainClosing : Text := "\n    \x7d".toList

def throwingHeader (function : TestFunction) : Text :=
  if function.isThrowing then function.header
  else
    let bare := (function.declaration.reverse.dropWhile fun c => c == '(' || c == ')').reverse
    bare ++ emptyParameters ++ function.effects ++ " throws \x7b".toList

/-- A body whose first staging is exchanged for the helper's call, and then without the first
assertion of the result. -/
def migrateBody (settings : Settings) (payload url body : Text) : Text :=
  let called := Scan.replaceFirst Statement.staging? Statement.text (settings.call url payload) body
  Scan.replaceFirst Statement.assertion? Statement.text [] called

def migrate (settings : Settings) (function : TestFunction) : MigratedFunction :=
  let name := function.name
  let found := Event.found name function.body
  if Text.occursIn settings.marker function.body then
    { text := function.text
      outcome := .alreadyMigrated
      events := [found, .outcome name .alreadyMigrated] }
  else
    let use := LegacyUse.ofBody function.body
    let (body, outcome) :=
      match use.payload, use.url with
      | some payload, some url =>
          (migrateBody settings payload url function.body, Outcome.migrated)
      | _, _ => (function.body, Outcome.signatureOnly)
    { text := function.throwingHeader ++ body ++ plainClosing
      outcome
      events := [found, .legacyUse name use, .outcome name outcome] }

end TestFunction

end StagedMocks
