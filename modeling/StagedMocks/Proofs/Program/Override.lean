import Mathlib.Algebra.GroupWithZero.Nat
import StagedMocks.Proofs.Log.Verdict
import StagedMocks.Proofs.Program.Check

/-!
What the environment's log specification changes in a run. It never reaches the standard output,
the status or the disk. If the command line gives a verbosity, two specifications make no
difference exactly if they cause the same remarks and let the same kinds of records through.
-/
namespace StagedMocks.Program

/-- The kinds of records that a run can make. -/
def spoken : List (Text × Log.Level) :=
  [(mainTarget, .info), (mainTarget, .debug), (eventTarget, .info), (eventTarget, .debug),
    (Settings.logTarget, .warn)]

theorem eventRecords_spoken {event : Event} {record : Log.Record}
    (h : record ∈ eventRecords event) : (record.target, record.level) ∈ spoken := by
  cases event with
  | found name body =>
      obtain rfl := List.mem_singleton.mp h
      simp [spoken]
  | legacyUse name use =>
      simp only [eventRecords, List.mem_cons, List.not_mem_nil, or_false] at h
      obtain rfl | rfl := h
      · simp [spoken]
      · simp [spoken]
  | outcome name outcome =>
      obtain rfl := List.mem_singleton.mp h
      simp [spoken]

theorem summaryRecords_spoken {file : Text} {result : MigratedSource} {record : Log.Record}
    (h : record ∈ summaryRecords file result) : (record.target, record.level) ∈ spoken := by
  obtain rfl | h := List.mem_cons.mp h
  · simp [spoken]
  · obtain ⟨report, _, rfl⟩ := List.mem_map.mp h
    simp [spoken]

theorem settingsFor_spoken {point : Standpoint} {settingsPath : Option Text} {file : Text}
    {record : Log.Record} (h : record ∈ (settingsFor point settingsPath file).2) :
    (record.target, record.level) ∈ spoken := by
  rw [settingsFor] at h
  split at h
  · rw [Settings.loadOrStandard] at h
    split at h
    · split at h
      · cases h
      · obtain rfl := List.mem_singleton.mp h
        simp [spoken]
    · cases h
  · cases h

theorem migrateFile_spoken {point : Standpoint} {settingsPath : Option Text} {file : Text}
    {record : Log.Record} (h : record ∈ (migrateFile point settingsPath file).1) :
    (record.target, record.level) ∈ spoken := by
  rw [migrateFile] at h
  dsimp only at h
  split at h
  · exact settingsFor_spoken h
  split at h
  · exact settingsFor_spoken h
  obtain h | h := List.mem_append.mp h
  · obtain h | h := List.mem_append.mp h
    · exact settingsFor_spoken h
    · obtain ⟨event, _, h⟩ := List.mem_flatMap.mp h
      exact eventRecords_spoken h
  · exact summaryRecords_spoken h

section Filters

variable {filter other : Log.Filter} {settingsPath : Option Text}

/-- Filters that agree on all kinds of records that a run can make. -/
def Agree (filter other : Log.Filter) : Prop :=
  ∀ record : Log.Record, (record.target, record.level) ∈ spoken →
    filter.shows record = other.shows record

theorem logged_agree (h : Agree filter other) (point : Standpoint) (settingsPath : Option Text)
    (file : Text) :
    logged filter (migrateFile point settingsPath file).1 =
      logged other (migrateFile point settingsPath file).1 := by
  rw [logged, logged]
  congr 1
  exact List.filter_congr fun record hrecord => h record (migrateFile_spoken hrecord)

theorem updateFiles_agree (h : Agree filter other) (here : Location) (disk : Disk)
    (files : List Text) :
    updateFiles filter settingsPath here disk files =
      updateFiles other settingsPath here disk files := by
  induction files generalizing disk with
  | nil => rfl
  | cons file files ih =>
      have hlogged := logged_agree h ⟨disk, here⟩ settingsPath file
      rw [updateFiles, updateFiles]
      simp only [hlogged, ih]

theorem checkFiles_agree (h : Agree filter other) (point : Standpoint) (namesFiles : Bool)
    (files : List Text) :
    checkFiles filter settingsPath point namesFiles files =
      checkFiles other settingsPath point namesFiles files := by
  induction files with
  | nil => rfl
  | cons file files ih =>
      have hlogged := logged_agree h point settingsPath file
      rw [checkFiles, checkFiles]
      simp only [hlogged, ih]

theorem execute_agree (h : Agree filter other) (point : Standpoint) (arguments : Arguments) :
    execute filter point arguments = execute other point arguments := by
  simp only [execute, update, check, updateFiles_agree h, checkFiles_agree h]

end Filters

/-- Progress that differs at most in what is printed on the error output. -/
structure AsideFromErrors {α : Type} (one other : Progress α) : Prop where
  disk : one.disk = other.disk
  printed : standardOutput one.printed = standardOutput other.printed
  ending : one.ending = other.ending

theorem AsideFromErrors.refl {α : Type} (progress : Progress α) :
    AsideFromErrors progress progress :=
  ⟨rfl, rfl, rfl⟩

theorem AsideFromErrors.status {α : Type} {one other : Progress α}
    (h : AsideFromErrors one other) (status : α → Nat) :
    (one.result status).status = (other.result status).status := by
  simp only [Progress.result, h.ending]
  cases other.ending <;> rfl

section AsideFromErrors

variable (filter other : Log.Filter) (settingsPath : Option Text)

theorem updateFiles_aside (here : Location) (disk : Disk) (files : List Text) :
    AsideFromErrors (updateFiles filter settingsPath here disk files)
      (updateFiles other settingsPath here disk files) := by
  induction files generalizing disk with
  | nil => exact .refl _
  | cons file files ih =>
      rw [updateFiles, updateFiles]
      dsimp only
      split
      · exact ⟨rfl, by simp, rfl⟩
      · split
        · exact ⟨rfl, by simp, rfl⟩
        · rename_i next _
          obtain ⟨hdisk, hprinted, hending⟩ := ih next
          refine ⟨hdisk, ?_, hending⟩
          simp only [Progress.after, standardOutput_append, standardOutput_logged, hprinted]

theorem checkFiles_aside (point : Standpoint) (namesFiles : Bool) (files : List Text) :
    AsideFromErrors (checkFiles filter settingsPath point namesFiles files)
      (checkFiles other settingsPath point namesFiles files) := by
  induction files with
  | nil => exact .refl _
  | cons file files ih =>
      obtain ⟨hdisk, hprinted, hending⟩ := ih
      cases h : (migrateFile point settingsPath file).2 with
      | error fault =>
          rw [checkFiles_unreadable h, checkFiles_unreadable h]
          refine ⟨rfl, ?_, rfl⟩
          simp only [standardOutput_append, standardOutput_logged]
      | ok migrated =>
          rw [checkFiles_migrated h, checkFiles_migrated h]
          refine ⟨hdisk, ?_, ?_⟩
          · simp only [standardOutput_append, standardOutput_logged, hprinted]
          · simp only [hending]

end AsideFromErrors

/-- What a filter shows changes nothing but the error output. -/
theorem execute_aside (filter other : Log.Filter) (point : Standpoint) (arguments : Arguments) :
    (execute filter point arguments).disk = (execute other point arguments).disk ∧
      standardOutput (execute filter point arguments).printed =
        standardOutput (execute other point arguments).printed ∧
      (execute filter point arguments).status = (execute other point arguments).status := by
  rw [execute, execute]
  split
  · have h : AsideFromErrors (update filter point arguments) (update other point arguments) := by
      rw [update, update]
      split
      · exact .refl _
      · exact updateFiles_aside _ _ _ _ _ _
    simp only [disk_result, standardOutput_result]
    exact ⟨h.disk, h.printed, h.status _⟩
  · have h : AsideFromErrors (check filter point arguments) (check other point arguments) := by
      rw [check, check]
      split
      · exact .refl _
      · exact checkFiles_aside _ _ _ _ _ _
    simp only [disk_result, standardOutput_result]
    exact ⟨h.disk, h.printed, h.status _⟩
  · exact ⟨rfl, rfl, rfl⟩

/-- A command line that is accepted as a run, and gives a verbosity. -/
def Gives (commandLine : List Text) (verbosity : Log.Verbosity) : Prop :=
  ∃ arguments, Arguments.read commandLine = .ok (.run arguments) ∧
    arguments.verbosity = some verbosity

/-- A log specification lets the same kinds of records of a run through as another one if the
command line gives a verbosity. -/
def LetsThroughAlike (verbosity : Log.Verbosity) (environment other : Option Text) : Prop :=
  ∀ kind ∈ spoken,
    (Log.Filter.verbosityFor environment verbosity kind.1).shows kind.2 =
      (Log.Filter.verbosityFor other verbosity kind.1).shows kind.2

instance (verbosity : Log.Verbosity) (environment other : Option Text) :
    Decidable (LetsThroughAlike verbosity environment other) :=
  inferInstanceAs (Decidable (∀ kind ∈ spoken, _))

theorem LetsThroughAlike.agree {verbosity : Log.Verbosity} {environment other : Option Text}
    (h : LetsThroughAlike verbosity environment other) :
    Agree (Log.Filter.ofRun environment (some verbosity)).1
      (Log.Filter.ofRun other (some verbosity)).1 := by
  intro record hrecord
  rw [Log.Filter.shows_ofRun, Log.Filter.shows_ofRun]
  exact h _ hrecord

@[simp]
theorem errorOutput_logged (filter : Log.Filter) (records : List Log.Record) :
    errorOutput (logged filter records) = (records.filter filter.shows).flatMap (·.text) := by
  simp [errorOutput, logged, List.flatMap_map]

/-- The number of characters in the texts of some records, by their kinds. -/
theorem length_texts (lets : Text × Log.Level → Bool) (records : List Log.Record) :
    ((records.filter fun record => lets (record.target, record.level)).flatMap (·.text)).length =
      ((records.map fun record => ((record.target, record.level), record.text.length)).map
        fun (kind, length) => if lets kind then length else 0).sum := by
  induction records with
  | nil => rfl
  | cons record records ih =>
      cases h : lets (record.target, record.level) with
      | false => simp [h, ih]
      | true => simp [h, ih]

/-- Settings that cannot be read, beside a source whose only function has neither legacy
statement. -/
def outspokenSource : Standpoint :=
  ⟨⟨[(["t".toList], .directory), (["t".toList, Settings.fileName], .file "?".toUTF8),
    (["t".toList, "a.swift".toList], .file "func test_a() \x7b\n    \x7d".toUTF8)]⟩,
    ["t".toList]⟩

/-- How many characters are printed about this source, by which kinds of records are shown. -/
def outspokenLength (settings eventDebug event mainDebug main : Bool) : Nat :=
  settings.toNat * 112 + eventDebug.toNat * 152 + event.toNat * 53 + mainDebug.toNat * 81 +
    main.toNat * 79

/-- From the number of characters it can be told which kinds were shown. -/
theorem outspokenLength_inj : ∀ settings eventDebug event mainDebug main
    settings' eventDebug' event' mainDebug' main',
    outspokenLength settings eventDebug event mainDebug main =
      outspokenLength settings' eventDebug' event' mainDebug' main' →
    settings = settings' ∧ eventDebug = eventDebug' ∧ event = event' ∧
      mainDebug = mainDebug' ∧ main = main' := by
  decide +kernel

theorem length_outspokenSource (lets : Text × Log.Level → Bool) :
    (((migrateFile outspokenSource none "a.swift".toList).1.filter fun record =>
        lets (record.target, record.level)).flatMap (·.text)).length =
      outspokenLength (lets (Settings.logTarget, .warn)) (lets (eventTarget, .debug))
        (lets (eventTarget, .info)) (lets (mainTarget, .debug)) (lets (mainTarget, .info)) := by
  have hrecords : (migrateFile outspokenSource none "a.swift".toList).1.map (fun record =>
      ((record.target, record.level), record.text.length)) =
        [((Settings.logTarget, .warn), 112), ((eventTarget, .debug), 44),
          ((eventTarget, .debug), 59), ((eventTarget, .debug), 49), ((eventTarget, .info), 53),
          ((mainTarget, .info), 79), ((mainTarget, .debug), 81)] := by
    decide +kernel
  have hbool : ∀ (shown : Bool) (length : Nat),
      (if shown = true then length else 0) = shown.toNat * length := by
    intro shown length
    cases shown <;> simp
  rw [length_texts, hrecords]
  simp only [List.map_cons, List.map_nil, List.sum_cons, List.sum_nil, hbool, outspokenLength]
  omega

/-- A check of one file prints on the error output what is shown of its records. -/
theorem errorOutput_check {filter : Log.Filter} {point : Standpoint} {file : Text}
    (hfiles : Expansion.allFiles point false [file] = .ok [file]) {migrated : MigratedFile}
    (hmigrated : (migrateFile point none file).2 = .ok migrated)
    (verbosity : Option Log.Verbosity) :
    errorOutput (execute filter point ⟨.check, [file], none, verbosity, false⟩).printed =
      ((migrateFile point none file).1.filter filter.shows).flatMap (·.text) := by
  simp only [execute, errorOutput_result, check, hfiles, checkFiles_migrated hmigrated,
    errorOutput_append, errorOutput_heading, errorOutput_logged, errorOutput_shown]
  simp [checkFiles, errorOutput, Except.map]

theorem errorOutput_run {point : Standpoint} {environment : Option Text} {commandLine : List Text}
    {arguments : Arguments} (h : Arguments.read commandLine = .ok (.run arguments)) :
    errorOutput (run point environment commandLine).printed =
      errorOutput (warnings environment arguments.verbosity) ++
        errorOutput (execute (Log.Filter.ofRun environment arguments.verbosity).1 point
          arguments).printed := by
  rw [run_eq h, errorOutput_append]

/-- A command line that gives a verbosity. -/
def giving (verbosity : Log.Verbosity) (rest : List Text) : List Text :=
  "mockmigrate".toList :: "--log-level".toList :: verbosity.name.toList :: rest

theorem read_giving_initialise (verbosity : Log.Verbosity) :
    Arguments.read (giving verbosity ["--init-config".toList, "a.toml".toList]) =
      .ok (.run ⟨.initialise, ["a.toml".toList], none, some verbosity, false⟩) := by
  cases verbosity <;> decide +kernel

theorem read_giving_check (verbosity : Log.Verbosity) :
    Arguments.read (giving verbosity ["--check".toList, "a.swift".toList]) =
      .ok (.run ⟨.check, ["a.swift".toList], none, some verbosity, false⟩) := by
  cases verbosity <;> decide +kernel

theorem errorOutput_outspokenSource (verbosity : Log.Verbosity) (environment : Option Text) :
    errorOutput (execute (Log.Filter.ofRun environment (some verbosity)).1 outspokenSource
        ⟨.check, ["a.swift".toList], none, some verbosity, false⟩).printed =
      ((migrateFile outspokenSource none "a.swift".toList).1.filter fun record =>
        (Log.Filter.verbosityFor environment verbosity record.target).shows
          record.level).flatMap (·.text) := by
  have hfiles : Expansion.allFiles outspokenSource false ["a.swift".toList] =
      .ok ["a.swift".toList] := rfl
  have hshows : (Log.Filter.ofRun environment (some verbosity)).1.shows = fun record =>
      (Log.Filter.verbosityFor environment verbosity record.target).shows record.level :=
    funext (Log.Filter.shows_ofRun environment verbosity)
  obtain ⟨cause, hread, _⟩ | ⟨source, result, _, _, hmigrated⟩ :=
    migrateFile_cases outspokenSource none "a.swift".toList
  · cases hread
  · rw [errorOutput_check hfiles hmigrated, hshows]

/-- What is printed about the outspoken source tells which kinds of records are shown. -/
theorem letsThroughAlike_of_outspokenSource {verbosity : Log.Verbosity}
    {environment other : Option Text}
    (h : errorOutput (execute (Log.Filter.ofRun environment (some verbosity)).1 outspokenSource
        ⟨.check, ["a.swift".toList], none, some verbosity, false⟩).printed =
      errorOutput (execute (Log.Filter.ofRun other (some verbosity)).1 outspokenSource
        ⟨.check, ["a.swift".toList], none, some verbosity, false⟩).printed) :
    LetsThroughAlike verbosity environment other := by
  rw [errorOutput_outspokenSource, errorOutput_outspokenSource] at h
  have hlength := congrArg List.length h
  rw [length_outspokenSource fun kind =>
      (Log.Filter.verbosityFor environment verbosity kind.1).shows kind.2,
    length_outspokenSource fun kind =>
      (Log.Filter.verbosityFor other verbosity kind.1).shows kind.2] at hlength
  obtain ⟨hsettings, heventDebug, hevent, hmainDebug, hmain⟩ :=
    outspokenLength_inj _ _ _ _ _ _ _ _ _ _ hlength
  simp only [LetsThroughAlike, spoken, List.forall_mem_cons]
  exact ⟨hmain, hmainDebug, hevent, heventDebug, hsettings, List.forall_mem_nil _⟩

/-- If the command line gives a verbosity, the environment's log specification still matters for
the error output, and for nothing else. Two specifications print the same there in all runs
exactly if they cause the same remarks and let the same kinds of records through. -/
theorem run_environment_iff (verbosity : Log.Verbosity) (environment other : Option Text) :
    (∀ point commandLine, Gives commandLine verbosity →
      (run point environment commandLine).disk = (run point other commandLine).disk ∧
        standardOutput (run point environment commandLine).printed =
          standardOutput (run point other commandLine).printed ∧
        (run point environment commandLine).status = (run point other commandLine).status) ∧
      ((∀ point commandLine, Gives commandLine verbosity →
        errorOutput (run point environment commandLine).printed =
          errorOutput (run point other commandLine).printed) ↔
        errorOutput (warnings environment (some verbosity)) =
            errorOutput (warnings other (some verbosity)) ∧
          LetsThroughAlike verbosity environment other) := by
  constructor
  · rintro point commandLine ⟨arguments, hread, _⟩
    obtain ⟨hdisk, hprinted, hstatus⟩ := execute_aside
      (Log.Filter.ofRun environment arguments.verbosity).1
      (Log.Filter.ofRun other arguments.verbosity).1 point arguments
    rw [run_eq hread, run_eq hread]
    simp only [standardOutput_append, standardOutput_warnings, List.nil_append]
    exact ⟨hdisk, hprinted, hstatus⟩
  · constructor
    · intro hsame
      have hinitialise := hsame ⟨.empty, []⟩ _ ⟨_, read_giving_initialise verbosity, rfl⟩
      have hcheck := hsame outspokenSource _ ⟨_, read_giving_check verbosity, rfl⟩
      rw [errorOutput_run (read_giving_initialise verbosity),
        errorOutput_run (read_giving_initialise verbosity)] at hinitialise
      rw [errorOutput_run (read_giving_check verbosity),
        errorOutput_run (read_giving_check verbosity)] at hcheck
      -- Making a settings file logs nothing, so what is left are the remarks.
      have hwarnings := List.append_cancel_right hinitialise
      rw [hwarnings] at hcheck
      exact ⟨hwarnings, letsThroughAlike_of_outspokenSource (List.append_cancel_left hcheck)⟩
    · rintro ⟨hwarnings, halike⟩ point commandLine ⟨arguments, hread, hverbosity⟩
      rw [errorOutput_run hread, errorOutput_run hread, hverbosity, hwarnings,
        execute_agree halike.agree]

/-- A directive for the program's own target lets through what the command line asks not to
show. -/
theorem run_environment_outspokenSource :
    Gives (giving .error ["--check".toList, "a.swift".toList]) .error ∧
      errorOutput (run outspokenSource none
        (giving .error ["--check".toList, "a.swift".toList])).printed = [] ∧
      errorOutput (run outspokenSource (some "mockmigrate::observer=info".toList)
        (giving .error ["--check".toList, "a.swift".toList])).printed =
          "[INFO  mockmigrate::observer] test_a: signature only\n".toList := by
  refine ⟨⟨_, read_giving_check _, rfl⟩, ?_, ?_⟩
  · rw [errorOutput_run (read_giving_check _), errorOutput_outspokenSource]
    decide +kernel
  · rw [errorOutput_run (read_giving_check _), errorOutput_outspokenSource]
    decide +kernel

end StagedMocks.Program
