import Mathlib.Data.List.Infix
import StagedMocks.Program
import StagedMocks.Proofs.Disk.Writing
import StagedMocks.Proofs.Migration.Splice

/-!
Update runs. All arguments are expanded before anything is written. Then each file is read,
migrated and written in turn, so a run that fails has overwritten the files before the one that
cannot be read, and no other file.
-/
namespace StagedMocks

theorem Source.exists_migrate (settings : Settings) (source : Text) :
    ∃ result, Source.migrate settings source = .ok result := by
  obtain ⟨finds, tail, cover⟩ := Scan.exists_cover TestFunction.read?_lawful source
  exact ⟨_, Source.migrate_eq settings cover⟩

namespace Expansion

variable {point : Standpoint} {isPattern : Bool} {arguments : List Text}

theorem allFiles_of_forall₂ {expansions : List (List Text)}
    (h : List.Forall₂ (fun argument expanded => files point isPattern argument = .ok expanded)
      arguments expansions) :
    allFiles point isPattern arguments = .ok expansions.flatten := by
  rw [allFiles, mapM_of_forall₂ h]
  rfl

theorem allFiles_of_error {argument : Text} (hmem : argument ∈ arguments) {fault : Fault}
    (h : files point isPattern argument = .error fault) :
    ∃ first, allFiles point isPattern arguments = .error first := by
  obtain ⟨first, hfirst⟩ := mapM_of_error hmem h
  exact ⟨first, by rw [allFiles, hfirst]; rfl⟩

end Expansion

namespace Program

@[simp]
theorem standardOutput_append (printed later : List Output) :
    standardOutput (printed ++ later) = standardOutput printed ++ standardOutput later :=
  List.flatMap_append

@[simp]
theorem standardOutput_logged (filter : Log.Filter) (records : List Log.Record) :
    standardOutput (logged filter records) = [] := by
  simp [standardOutput, logged, List.flatMap_map]

@[simp]
theorem standardOutput_out (text : Text) : standardOutput [.out text] = text :=
  List.flatMap_singleton _ _

theorem standardOutput_result {α : Type} (status : α → Nat) (progress : Progress α) :
    standardOutput (progress.result status).printed = standardOutput progress.printed := by
  rw [Progress.result]
  split
  · rfl
  · simp [standardOutput]

theorem disk_result {α : Type} (status : α → Nat) (progress : Progress α) :
    (progress.result status).disk = progress.disk := by
  rw [Progress.result]
  split <;> rfl

/-- What is printed about a log specification before the command is carried out. -/
def warnings (logSpecification : Option Text) (verbosity : Option Log.Verbosity) : List Output :=
  (Log.Filter.ofRun logSpecification verbosity).2.map fun remark =>
    .err (line ["warning: ".toList, remark, ", ignoring it".toList])

@[simp]
theorem standardOutput_warnings (logSpecification : Option Text)
    (verbosity : Option Log.Verbosity) :
    standardOutput (warnings logSpecification verbosity) = [] := by
  simp [standardOutput, warnings, List.flatMap_map]

theorem run_eq {point : Standpoint} {logSpecification : Option Text} {commandLine : List Text}
    {arguments : Arguments} (h : Arguments.read commandLine = .ok (.run arguments)) :
    run point logSpecification commandLine =
      let filter := (Log.Filter.ofRun logSpecification arguments.verbosity).1
      { execute filter point arguments with
        printed := warnings logSpecification arguments.verbosity ++
          (execute filter point arguments).printed } := by
  rw [run, h]
  rfl

/-- A file can be read and migrated, or it cannot be read. -/
theorem migrateFile_cases (point : Standpoint) (settingsPath : Option Text) (file : Text) :
    (∃ cause, point.readText file = .error cause ∧
      (migrateFile point settingsPath file).2 = .error (.fileAccess file cause)) ∨
    ∃ source result, point.readText file = .ok source ∧
      Source.migrate (settingsFor point settingsPath file).1 source = .ok result ∧
      (migrateFile point settingsPath file).2 = .ok ⟨source, result⟩ := by
  rw [migrateFile]
  cases hread : point.readText file with
  | error cause => exact .inl ⟨cause, rfl, rfl⟩
  | ok source =>
      obtain ⟨result, hresult⟩ :=
        Source.exists_migrate (settingsFor point settingsPath file).1 source
      refine .inr ⟨source, result, rfl, hresult, ?_⟩
      simp only [hresult]

theorem readText_of_migrateFile {point : Standpoint} {settingsPath : Option Text} {file : Text}
    {migrated : MigratedFile} (h : (migrateFile point settingsPath file).2 = .ok migrated) :
    point.readText file = .ok migrated.source := by
  obtain ⟨cause, _, hfault⟩ | ⟨source, result, hread, _, hmigrated⟩ :=
    migrateFile_cases point settingsPath file
  · rw [hfault] at h
    cases h
  · rw [hmigrated] at h
    cases h
    exact hread

/-- Files are overwritten in turn, each with the migration of the text that it has when its turn
comes, under the settings that govern it then. -/
inductive Overwritten (settingsPath : Option Text) (here : Location) :
    Disk → List Text → Disk → Prop where
  | none {disk : Disk} : Overwritten settingsPath here disk [] disk
  | next {disk after last : Disk} {file source : Text} {files : List Text}
      {result : MigratedSource} {location : Location} :
      (Standpoint.mk disk here).readText file = .ok source →
      Source.migrate (settingsFor ⟨disk, here⟩ settingsPath file).1 source = .ok result →
      (Standpoint.mk disk here).resolve file = .ok location →
      disk.Exchanged location result.text after →
      Overwritten settingsPath here after files last →
      Overwritten settingsPath here disk (file :: files) last

section Overwritten

variable {settingsPath : Option Text} {here : Location} {disk last : Disk} {files : List Text}

theorem Overwritten.sameShape (h : Overwritten settingsPath here disk files last) :
    Disk.SameShape disk last := by
  induction h with
  | none => exact .refl _
  | next _ _ _ hexchanged _ ih => exact hexchanged.sameShape.trans ih

/-- A location to which none of the files leads keeps what it holds. -/
theorem Overwritten.find?_eq (h : Overwritten settingsPath here disk files last)
    {location : Location}
    (hother : ∀ file ∈ files, (Standpoint.mk disk here).resolve file ≠ .ok location) :
    last.find? location = disk.find? location := by
  induction h with
  | none => rfl
  | @next disk _ _ file _ files _ written _ _ hresolve hexchanged _ ih =>
      have hne : location ≠ written := by
        rintro rfl
        exact hother file List.mem_cons_self hresolve
      rw [ih, hexchanged.find?_eq, if_neg hne]
      intro later hlater
      rw [Standpoint.resolve_shape hexchanged.sameShape]
      exact hother later (List.mem_cons_of_mem file hlater)

theorem Overwritten.text_stays (h : Overwritten settingsPath here disk files last)
    {location : Location}
    (htext : ∃ text : Text, disk.find? location = some (.file (String.ofList text).toUTF8)) :
    ∃ text : Text, last.find? location = some (.file (String.ofList text).toUTF8) := by
  induction h with
  | none => exact htext
  | @next _ _ _ _ _ _ result written _ _ _ hexchanged _ ih =>
      apply ih
      rw [hexchanged.find?_eq]
      split
      · exact ⟨result.text, rfl⟩
      · exact htext

theorem Overwritten.exists_text (h : Overwritten settingsPath here disk files last)
    {file : Text} (hfile : file ∈ files) {location : Location}
    (hresolve : (Standpoint.mk disk here).resolve file = .ok location) :
    ∃ text : Text, last.find? location = some (.file (String.ofList text).toUTF8) := by
  induction h with
  | none => cases hfile
  | @next _ _ _ first _ _ result written _ _ hwritten hexchanged hrest ih =>
      obtain rfl | hfile := List.mem_cons.mp hfile
      · rw [hwritten] at hresolve
        cases hresolve
        exact hrest.text_stays ⟨result.text, by rw [hexchanged.find?_eq, if_pos rfl]⟩
      · apply ih hfile
        rw [Standpoint.resolve_shape hexchanged.sameShape]
        exact hresolve

/-- None of the overwritten files is one that cannot be read afterwards. -/
theorem Overwritten.find?_unreadable (h : Overwritten settingsPath here disk files last)
    {file : Text} {cause : AccessFault}
    (hunreadable : (Standpoint.mk last here).readText file = .error cause)
    {location : Location} (hresolve : (Standpoint.mk disk here).resolve file = .ok location) :
    last.find? location = disk.find? location := by
  apply h.find?_eq
  intro other hother hsame
  -- Another name of the file would have left a text in it.
  obtain ⟨text, htext⟩ := h.exists_text hother hsame
  rw [← Standpoint.resolve_shape h.sameShape] at hresolve
  rw [Standpoint.readText_eq_ok_iff.mpr ⟨location, hresolve, htext⟩] at hunreadable
  cases hunreadable

end Overwritten

theorem updateFiles_unreadable {filter : Log.Filter} {settingsPath : Option Text}
    {here : Location} {disk : Disk} {file : Text} {fault : Fault}
    (h : (migrateFile ⟨disk, here⟩ settingsPath file).2 = .error fault) (files : List Text) :
    updateFiles filter settingsPath here disk (file :: files) =
      ⟨disk, logged filter (migrateFile ⟨disk, here⟩ settingsPath file).1, .error fault⟩ := by
  rw [updateFiles]
  simp only [h]

/-- A file that is migrated is written where it was read, and the update goes on with the rest. -/
theorem updateFiles_exchanged (filter : Log.Filter) {settingsPath : Option Text} {here : Location}
    {disk : Disk} (hwritable : (Standpoint.mk disk here).Writable) {file : Text}
    {migrated : MigratedFile}
    (hmigrated : (migrateFile ⟨disk, here⟩ settingsPath file).2 = .ok migrated)
    (files : List Text) :
    ∃ location next, (Standpoint.mk disk here).resolve file = .ok location ∧
      disk.Exchanged location migrated.result.text next ∧
      updateFiles filter settingsPath here disk (file :: files) =
        (updateFiles filter settingsPath here next files).after
          (logged filter (migrateFile ⟨disk, here⟩ settingsPath file).1 ++
            [.out (line ["Updated ".toList, file])]) := by
  have hread := readText_of_migrateFile hmigrated
  obtain ⟨next, hwrite⟩ := hwritable file migrated.source migrated.result.text hread
  obtain ⟨location, hresolve, hexchanged⟩ := Standpoint.exchanged_of_writeText hread hwrite
  refine ⟨location, next, hresolve, hexchanged, ?_⟩
  rw [updateFiles]
  simp only [hmigrated, hwrite]

/-- How an update ends that has `left` still to do: well, or at a file that cannot be read. -/
def EndsAt (here : Location) (progress : Progress Unit) : List Text → Prop
  | [] => progress.ending = .ok ()
  | file :: _ => ∃ cause, (Standpoint.mk progress.disk here).readText file = .error cause ∧
      progress.ending = .error (.fileAccess file cause)

theorem EndsAt.after {here : Location} {progress : Progress Unit} {left : List Text}
    (h : EndsAt here progress left) (printed : List Output) :
    EndsAt here (progress.after printed) left := by
  cases left with
  | nil => exact h
  | cons file left => exact h

/-- An update overwrites files in turn up to the first that cannot be read, and tells so. -/
theorem updateFiles_overwrites (filter : Log.Filter) (settingsPath : Option Text)
    (here : Location) (files : List Text) {disk : Disk}
    (hwritable : (Standpoint.mk disk here).Writable) :
    ∃ done left, files = done ++ left ∧
      Overwritten settingsPath here disk done
        (updateFiles filter settingsPath here disk files).disk ∧
      standardOutput (updateFiles filter settingsPath here disk files).printed =
        done.flatMap (fun file => line ["Updated ".toList, file]) ∧
      EndsAt here (updateFiles filter settingsPath here disk files) left := by
  -- A later file is read from the disk that the earlier writes have left, on which what could be
  -- written still can.
  induction files generalizing disk with
  | nil => exact ⟨[], [], rfl, .none, rfl, rfl⟩
  | cons file files ih =>
      obtain ⟨cause, hread, hfault⟩ | ⟨source, result, hread, hresult, hmigrated⟩ :=
        migrateFile_cases ⟨disk, here⟩ settingsPath file
      · rw [updateFiles_unreadable hfault]
        exact ⟨[], file :: files, rfl, .none, standardOutput_logged _ _, cause, hread, rfl⟩
      · obtain ⟨location, next, hresolve, hexchanged, hupdate⟩ :=
          updateFiles_exchanged filter hwritable hmigrated files
        obtain ⟨done, left, hsplit, hdone, hprinted, hend⟩ := ih (hwritable.exchanged hexchanged)
        rw [hupdate]
        refine ⟨file :: done, left, by rw [hsplit, List.cons_append],
          .next hread hresult hresolve hexchanged hdone, ?_, hend.after _⟩
        simp only [Progress.after, standardOutput_append, standardOutput_logged, hprinted,
          standardOutput_out, List.nil_append, List.flatMap_cons]

/-- An update run looks at all arguments first: if one stands for no files, nothing is written
or printed. Otherwise the files are overwritten in turn, and each is told. The first file that
cannot be read when its turn comes ends the run; it and all files that were not overwritten
have their old bytes. -/
theorem run_update {point : Standpoint} (hwritable : point.Writable) {commandLine : List Text}
    {arguments : Arguments} (hread : Arguments.read commandLine = .ok (.run arguments))
    (hcommand : arguments.command = .update) (logSpecification : Option Text) :
    ∃ result, run point logSpecification commandLine = result ∧
      ((∃ argument ∈ arguments.filenames, ∃ fault,
          Expansion.files point arguments.arePatterns argument = .error fault) →
        result.disk = point.disk ∧ standardOutput result.printed = [] ∧ result.status = 1) ∧
      ∀ expansions, List.Forall₂ (fun argument files =>
          Expansion.files point arguments.arePatterns argument = .ok files)
          arguments.filenames expansions →
        ∃ done left, expansions.flatten = done ++ left ∧
          Overwritten arguments.settingsPath point.here point.disk done result.disk ∧
          (∀ location, (∀ file ∈ done, point.resolve file ≠ .ok location) →
            result.disk.find? location = point.disk.find? location) ∧
          standardOutput result.printed =
            done.flatMap (fun file => line ["Updated ".toList, file]) ∧
          match left with
          | [] => result.status = 0
          | file :: _ =>
              (∃ cause, (Standpoint.mk result.disk point.here).readText file = .error cause) ∧
              (∀ location, point.resolve file = .ok location →
                result.disk.find? location = point.disk.find? location) ∧
              result.status = 1 := by
  refine ⟨_, rfl, ?_⟩
  rw [run_eq hread]
  generalize (Log.Filter.ofRun logSpecification arguments.verbosity).1 = filter
  simp only [execute, hcommand, disk_result, standardOutput_append, standardOutput_warnings,
    List.nil_append, standardOutput_result]
  constructor
  · rintro ⟨argument, hmem, fault, hfault⟩
    obtain ⟨first, hfirst⟩ := Expansion.allFiles_of_error hmem hfault
    have hupdate : update filter point arguments = ⟨point.disk, [], .error first⟩ := by
      simp only [update, hfirst]
    rw [hupdate]
    exact ⟨rfl, rfl, rfl⟩
  · intro expansions hexpansions
    have hupdate : update filter point arguments =
        updateFiles filter arguments.settingsPath point.here point.disk expansions.flatten := by
      simp only [update, Expansion.allFiles_of_forall₂ hexpansions]
    obtain ⟨done, left, hsplit, hdone, hprinted, hend⟩ :=
      updateFiles_overwrites filter arguments.settingsPath point.here expansions.flatten hwritable
    rw [← hupdate] at hdone hprinted hend
    refine ⟨done, left, hsplit, hdone, fun location => hdone.find?_eq, hprinted, ?_⟩
    cases left with
    | nil =>
        have hending : (update filter point arguments).ending = .ok () := hend
        simp only [Progress.result, hending]
    | cons file left =>
        obtain ⟨cause, hunreadable, hending⟩ := hend
        refine ⟨⟨cause, hunreadable⟩, fun location => hdone.find?_unreadable hunreadable, ?_⟩
        simp only [Progress.result, hending]

/-- Two sources in the current directory. -/
def twoSources : Standpoint :=
  ⟨⟨[(["t".toList], .directory),
    (["t".toList, "a.swift".toList], .file "func test_a() \x7b\n    \x7d".toUTF8),
    (["t".toList, "b.swift".toList], .file "func test_b() \x7b\n    \x7d".toUTF8)]⟩, ["t".toList]⟩

/-- Between two sources that exist a command line names one that does not. -/
def missingSource : List Text :=
  ["mockmigrate".toList, "a.swift".toList, "missing.swift".toList, "b.swift".toList]

theorem run_update_missingSource :
    twoSources.Writable ∧
      Arguments.read missingSource =
        .ok (.run ⟨.update, missingSource.tail, none, none, false⟩) ∧
      List.Forall₂ (fun argument files => Expansion.files twoSources false argument = .ok files)
        missingSource.tail (missingSource.tail.map ([·])) ∧
      ∃ result, run twoSources none missingSource = result ∧
        Overwritten none twoSources.here twoSources.disk ["a.swift".toList] result.disk ∧
        result.disk.find? ["t".toList, "b.swift".toList] =
          twoSources.disk.find? ["t".toList, "b.swift".toList] ∧
        standardOutput result.printed = "Updated a.swift\n".toList ∧ result.status = 1 := by
  have hwritable : twoSources.Writable :=
    Standpoint.writable_of_isTree (Disk.isTree_of_entries (by decide))
  have hread : Arguments.read missingSource =
      .ok (.run ⟨.update, missingSource.tail, none, none, false⟩) := by decide +kernel
  have hfiles : List.Forall₂
      (fun argument files => Expansion.files twoSources false argument = .ok files)
      missingSource.tail (missingSource.tail.map ([·])) :=
    .cons rfl (.cons rfl (.cons rfl .nil))
  obtain ⟨_, rfl, -, h⟩ := run_update hwritable hread rfl none
  obtain ⟨done, left, hsplit, hdone, hkept, hprinted, hleft⟩ := h _ hfiles
  have hupdated : standardOutput (run twoSources none missingSource).printed =
      "Updated a.swift\n".toList := by decide +kernel
  rw [hprinted] at hupdated
  obtain rfl : done = ["a.swift".toList] := by
    have honly : ∀ front ∈ missingSource.tail.inits,
        front.flatMap (fun file => line ["Updated ".toList, file]) =
          "Updated a.swift\n".toList → front = ["a.swift".toList] := by decide +kernel
    exact honly done (List.mem_inits _ _ |>.mpr ⟨left, hsplit.symm⟩) hupdated
  obtain rfl : left = ["missing.swift".toList, "b.swift".toList] :=
    (List.cons.inj hsplit).2.symm
  refine ⟨hwritable, hread, hfiles, _, rfl, hdone, hkept _ ?_, hprinted.trans hupdated, hleft.2.2⟩
  decide +kernel

end Program

end StagedMocks
