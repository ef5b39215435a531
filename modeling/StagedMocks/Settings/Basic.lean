import StagedMocks.Text.Basic

/-!
What a migration writes: the name of the mocking helper and the method token it
is called with.
-/
namespace StagedMocks

structure Settings where
  helper : Text := "mock".toList
  method : Text := "GET".toList
  deriving DecidableEq, Repr, Inhabited

namespace Settings

/-- A body that holds this text counts as migrated. -/
def marker (settings : Settings) : Text :=
  settings.helper ++ ['(']

/-- The call that takes the place of the legacy statements. -/
def call (settings : Settings) (url payload : Text) : Text :=
  "try ".toList ++ settings.helper ++ "(.".toList ++ settings.method ++ ", \"".toList ++ url ++
    "\", result: .success(jsonData(named: \"".toList ++ payload ++ "\")))".toList

end Settings

end StagedMocks
