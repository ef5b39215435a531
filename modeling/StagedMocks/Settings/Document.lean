import StagedMocks.Text.Blank
import StagedMocks.Settings.Basic
import StagedMocks.Toml.Document
import StagedMocks.Toml.Writer

/-!
Settings as a TOML document: two keys with strings, each of which may be missing.
-/
namespace StagedMocks.Settings

def helperKey : Text := "mock_helper".toList

def methodKey : Text := "http_method".toList

/-- The string under a key, or `standard` if the key is missing. Any other value is refused. -/
def stringAt? (key standard : Text) (entries : Toml.Value.Entries) : Option Text :=
  match Toml.Value.find? key entries with
  | none => some standard
  | some (.scalar (.string text)) => some text
  | some _ => none

/-- A text, or `standard` if it says nothing. -/
def unlessBlank (standard text : Text) : Text :=
  if Text.isAllBlank text then standard else text

def filled (settings : Settings) : Settings :=
  let standard : Settings := {}
  { helper := unlessBlank standard.helper settings.helper
    method := unlessBlank standard.method settings.method }

/-- Reads settings from a document. Other keys are ignored. -/
def ofDocument? (document : Text) : Option Settings := do
  let standard : Settings := {}
  let entries ← Toml.document? document
  let helper ← stringAt? helperKey standard.helper entries
  let method ← stringAt? methodKey standard.method entries
  return filled { helper, method }

def document (settings : Settings) : Text :=
  Toml.writtenPair helperKey settings.helper ++ Toml.writtenPair methodKey settings.method

end StagedMocks.Settings
