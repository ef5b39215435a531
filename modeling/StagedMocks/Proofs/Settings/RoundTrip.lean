import StagedMocks.Proofs.Disk.Writing
import StagedMocks.Proofs.Toml.Document
import StagedMocks.Settings.File

/-!
Settings that are saved and loaded again. Whatever the two strings hold, the document is read back
as it was written. Only fields that say nothing come back as the standard ones, and settings that
were loaded once come back as they are.
-/
namespace StagedMocks.Settings

theorem isBareKey_helperKey : Toml.IsBareKey helperKey :=
  ⟨by decide, Text.forall_mem_of_all (by decide)⟩

theorem isBareKey_methodKey : Toml.IsBareKey methodKey :=
  ⟨by decide, Text.forall_mem_of_all (by decide)⟩

/-- The keys of a document of settings, with what stands under them. -/
def pairs (settings : Settings) : List (Text × Text) :=
  [(helperKey, settings.helper), (methodKey, settings.method)]

theorem ofDocument?_document (settings : Settings) :
    ofDocument? settings.document = some settings.filled := by
  have hkeys : ∀ pair ∈ settings.pairs, Toml.IsBareKey pair.1 :=
    List.forall_mem_cons.mpr ⟨isBareKey_helperKey,
      List.forall_mem_cons.mpr ⟨isBareKey_methodKey, List.forall_mem_nil _⟩⟩
  have hnodup : (settings.pairs.map Prod.fst).Nodup := by
    have hdistinct : [helperKey, methodKey].Nodup := by decide
    exact hdistinct
  have hread := Toml.document?_written hkeys hnodup
  have hdocument : settings.document =
      settings.pairs.flatMap fun pair => Toml.writtenPair pair.1 pair.2 := by
    simp [document, pairs]
  have hmethod : (methodKey == helperKey) = false := by decide
  rw [← hdocument] at hread
  simp [ofDocument?, hread, Toml.entriesOf, pairs, stringAt?, Toml.Value.find?, List.lookup_cons,
    hmethod]

theorem unlessBlank_unlessBlank (standard text : Text) :
    unlessBlank standard (unlessBlank standard text) = unlessBlank standard text := by
  by_cases h : Text.isAllBlank text = true
  · simp [unlessBlank, h]
  · simp [unlessBlank, h]

theorem filled_filled (settings : Settings) : settings.filled.filled = settings.filled := by
  simp only [filled, unlessBlank_unlessBlank]

/-- Where a file can be written, settings can be saved, and they are loaded from there with their
blank fields filled. -/
theorem load_of_save {point : Standpoint} {path : Text} {location : Location}
    (htarget : point.target path = .ok location) (settings : Settings) :
    ∃ disk, settings.save point path = .ok disk ∧
      load ⟨disk, point.here⟩ path = .ok settings.filled ∧
      (Standpoint.mk disk point.here).target path = .ok location := by
  obtain ⟨hresolve, hstays⟩ :=
    Standpoint.resolve_put htarget (String.ofList settings.document).toUTF8
  have hwrite : point.writeText path settings.document =
      .ok (point.disk.put location (.file (String.ofList settings.document).toUTF8)) := by
    rw [Standpoint.writeText, htarget]
    rfl
  have hne : location ≠ [] := by
    obtain ⟨_, _, name, parent, _, _, _, _, _, _, _, rfl⟩ := Standpoint.target_eq_ok_iff.mp htarget
    simp
  have hfind : (point.disk.put location (.file (String.ofList settings.document).toUTF8)).find?
      location = some (.file (String.ofList settings.document).toUTF8) := by
    rw [Disk.find?_put hne, if_pos rfl]
  have hread := Standpoint.readText_eq_ok_iff.mpr ⟨location, hresolve, hfind⟩
  refine ⟨_, by rw [save, hwrite], ?_, hstays⟩
  simp only [load, hread, ofDocument?_document]

/-- Settings that are saved are loaded again from the same path, with the standard value in the
place of a field that is empty or blank, and with the same value in any other field. When the
loaded settings are saved there, they are loaded as they are. -/
theorem save_load {point : Standpoint} {path : Text} {location : Location}
    (htarget : point.target path = .ok location) (settings : Settings) :
    ∃ disk loaded next, settings.save point path = .ok disk ∧
      load ⟨disk, point.here⟩ path = .ok loaded ∧
      loaded.helper =
        (if settings.helper.all Text.isBlank then "mock".toList else settings.helper) ∧
      loaded.method =
        (if settings.method.all Text.isBlank then "GET".toList else settings.method) ∧
      loaded.save ⟨disk, point.here⟩ path = .ok next ∧
      load ⟨next, point.here⟩ path = .ok loaded := by
  obtain ⟨disk, hsave, hload, hstays⟩ := load_of_save htarget settings
  obtain ⟨next, hagain, hreload, _⟩ := load_of_save hstays settings.filled
  rw [filled_filled] at hreload
  exact ⟨disk, settings.filled, next, hsave, hload, rfl, rfl, hagain, hreload⟩

/-- Settings that need all kinds of quoting. -/
def quotedSettings : Settings where
  helper := "'''\\\"\"\"\r\n\t'".toList
  method := " \n".toList

/-- An empty current directory. -/
def emptyDirectory : Standpoint :=
  ⟨⟨[(["t".toList], .directory)]⟩, ["t".toList]⟩

theorem save_load_quotedSettings :
    emptyDirectory.target fileName = .ok ["t".toList, fileName] ∧
      ∃ disk loaded next, quotedSettings.save emptyDirectory fileName = .ok disk ∧
        load ⟨disk, emptyDirectory.here⟩ fileName = .ok loaded ∧
        loaded.helper = quotedSettings.helper ∧ loaded.method = "GET".toList ∧
        loaded.save ⟨disk, emptyDirectory.here⟩ fileName = .ok next ∧
        load ⟨next, emptyDirectory.here⟩ fileName = .ok loaded := by
  have htarget : emptyDirectory.target fileName = .ok ["t".toList, fileName] := rfl
  obtain ⟨disk, loaded, next, hsave, hload, hhelper, hmethod, hagain, hreload⟩ :=
    save_load htarget quotedSettings
  refine ⟨htarget, disk, loaded, next, hsave, hload, hhelper.trans ?_, hmethod.trans ?_, hagain,
    hreload⟩
  · exact if_neg (by decide)
  · exact if_pos (by decide)

end StagedMocks.Settings
