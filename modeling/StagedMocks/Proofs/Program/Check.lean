import StagedMocks.Proofs.Arguments.CheckSwitch
import StagedMocks.Proofs.Diff.Reading
import StagedMocks.Proofs.Program.Update

/-!
Checks and the updates that they announce. A check reads one disk throughout, while an update
reads what it has written. As long as the files are distinct and no settings file is among them,
an update reads nothing that it has written, and the two agree file by file.
-/
namespace StagedMocks

namespace Program

@[simp]
theorem errorOutput_append (printed later : List Output) :
    errorOutput (printed ++ later) = errorOutput printed ++ errorOutput later :=
  List.flatMap_append

@[simp]
theorem errorOutput_out (text : Text) : errorOutput [.out text] = [] :=
  List.flatMap_singleton _ _

theorem errorOutput_result {α : Type} (status : α → Nat) (progress : Progress α) :
    errorOutput (progress.result status).printed = errorOutput progress.printed ++
      match progress.ending with
      | .ok _ => []
      | .error fault => line [fault.message] := by
  rw [Progress.result]
  cases progress.ending with
  | ok value => simp only [List.append_nil]
  | error fault => simp [errorOutput]

def governing (point : Standpoint) (settingsPath : Option Text) (file : Text) : Option Text :=
  settingsPath <|> Settings.search? point file

/-- The settings files that are consulted for files: one for each of them, up to the first that
cannot be read. -/
def consulted (point : Standpoint) (settingsPath : Option Text) : List Text → List Text
  | [] => []
  | file :: rest =>
      (governing point settingsPath file).toList ++
        match point.readText file with
        | .ok _ => consulted point settingsPath rest
        | .error _ => []

/-- No two of the files are one, and none is a settings file that is consulted for them. -/
structure Separate (point : Standpoint) (settingsPath : Option Text) (files : List Text) :
    Prop where
  distinct : files.Pairwise fun file other => ∀ location,
    point.resolve file = .ok location → point.resolve other ≠ .ok location
  settings : ∀ path ∈ consulted point settingsPath files, ∀ file ∈ files, ∀ location,
    point.resolve path = .ok location → point.resolve file ≠ .ok location

/-- The paths of which the texts are read for files. -/
def readPaths (point : Standpoint) (settingsPath : Option Text) (files : List Text) : List Text :=
  files ++ consulted point settingsPath files

section Agreement

variable {point : Standpoint} {settingsPath : Option Text} {file : Text} {files : List Text}
  {disk : Disk} {source : Text} {migrated : MigratedFile}

theorem consulted_cons (hread : point.readText file = .ok source) :
    consulted point settingsPath (file :: files) =
      (governing point settingsPath file).toList ++ consulted point settingsPath files := by
  simp only [consulted, hread]

theorem consulted_tail_subset (hread : point.readText file = .ok source) :
    consulted point settingsPath files ⊆ consulted point settingsPath (file :: files) := by
  rw [consulted_cons hread]
  exact List.subset_append_right _ _

theorem Separate.tail (h : Separate point settingsPath (file :: files))
    (hread : point.readText file = .ok source) : Separate point settingsPath files where
  distinct := h.distinct.tail
  settings path hpath other hother :=
    h.settings path (consulted_tail_subset hread hpath) other (List.mem_cons_of_mem _ hother)

theorem Separate.resolve_ne (h : Separate point settingsPath (file :: files))
    (hread : point.readText file = .ok source) {location : Location}
    (hresolve : point.resolve file = .ok location) {path : Text}
    (hpath : path ∈ readPaths point settingsPath files) : point.resolve path ≠ .ok location := by
  obtain hpath | hpath := List.mem_append.mp hpath
  · exact List.rel_of_pairwise_cons h.distinct hpath location hresolve
  · intro hsame
    exact h.settings path (consulted_tail_subset hread hpath) file List.mem_cons_self location
      hsame hresolve

theorem settingsFor_eq (point : Standpoint) (settingsPath : Option Text) (file : Text) :
    settingsFor point settingsPath file =
      (governing point settingsPath file).elim ({}, []) (Settings.loadOrStandard point) := by
  rw [settingsFor, governing]
  split <;> simp only [*, Option.elim]

theorem loadOrStandard_agrees {paths : List Text} (h : point.Agrees paths disk) {path : Text}
    (hpath : path ∈ paths) :
    Settings.loadOrStandard ⟨disk, point.here⟩ path = Settings.loadOrStandard point path := by
  simp only [Settings.loadOrStandard, Settings.load, Standpoint.isFile_shape h.sameShape,
    h.readText_eq hpath]

theorem settingsFor_agrees {paths : List Text} (h : point.Agrees paths disk)
    (hgoverning : (governing point settingsPath file).toList ⊆ paths) :
    settingsFor ⟨disk, point.here⟩ settingsPath file = settingsFor point settingsPath file := by
  have hsame : governing ⟨disk, point.here⟩ settingsPath file =
      governing point settingsPath file := by
    rw [governing, Settings.search?_shape h.sameShape, governing]
  rw [settingsFor_eq, settingsFor_eq, hsame]
  cases hpath : governing point settingsPath file with
  | none => rfl
  | some path =>
      rw [hpath] at hgoverning
      exact loadOrStandard_agrees h (hgoverning List.mem_cons_self)

theorem migrateFile_agrees (h : point.Agrees (readPaths point settingsPath (file :: files)) disk) :
    migrateFile ⟨disk, point.here⟩ settingsPath file = migrateFile point settingsPath file := by
  have hgoverning : (governing point settingsPath file).toList ⊆
      readPaths point settingsPath (file :: files) := by
    intro path hpath
    simp only [readPaths, consulted, List.mem_append, hpath, true_or, or_true]
  have hfile : file ∈ readPaths point settingsPath (file :: files) := List.mem_cons_self
  simp only [migrateFile, settingsFor_agrees h hgoverning, h.readText_eq hfile]

/-- An update that has overwritten a file goes on with a disk on which the others read what they
read at the start. -/
theorem updateFiles_next (filter : Log.Filter)
    (hwritable : (Standpoint.mk disk point.here).Writable)
    (hseparate : Separate point settingsPath (file :: files))
    (hagrees : point.Agrees (readPaths point settingsPath (file :: files)) disk)
    (hmigrated : (migrateFile point settingsPath file).2 = .ok migrated) :
    ∃ location next, point.resolve file = .ok location ∧
      disk.Exchanged location migrated.result.text next ∧
      point.Agrees (readPaths point settingsPath files) next ∧
      updateFiles filter settingsPath point.here disk (file :: files) =
        (updateFiles filter settingsPath point.here next files).after
          (logged filter (migrateFile point settingsPath file).1 ++
            [.out (line ["Updated ".toList, file])]) := by
  have hread := readText_of_migrateFile hmigrated
  have hsame := migrateFile_agrees hagrees
  rw [← hsame] at hmigrated ⊢
  obtain ⟨location, next, hresolve, hexchanged, hupdate⟩ :=
    updateFiles_exchanged filter hwritable hmigrated files
  rw [Standpoint.resolve_shape hagrees.sameShape] at hresolve
  have hsubset : readPaths point settingsPath files ⊆
      readPaths point settingsPath (file :: files) :=
    List.append_subset.mpr ⟨fun path hpath => by simp [readPaths, hpath],
      fun path hpath => by simp [readPaths, consulted_tail_subset hread hpath]⟩
  exact ⟨location, next, hresolve, hexchanged,
    hagrees.exchanged hexchanged hsubset fun path => hseparate.resolve_ne hread hresolve, hupdate⟩

end Agreement

def heading (namesFiles : Bool) (file : Text) : List Output :=
  if namesFiles then [.out (line ["Processing file: ".toList, file])] else []

def shown (difference : Text) : List Output :=
  if difference.isEmpty then [] else [.out difference]

@[simp]
theorem errorOutput_heading (namesFiles : Bool) (file : Text) :
    errorOutput (heading namesFiles file) = [] := by
  cases namesFiles <;> rfl

theorem standardOutput_heading (namesFiles : Bool) (file : Text) :
    standardOutput (heading namesFiles file) =
      if namesFiles then line ["Processing file: ".toList, file] else [] := by
  cases namesFiles with
  | false => rfl
  | true => exact standardOutput_out _

@[simp]
theorem errorOutput_shown (difference : Text) : errorOutput (shown difference) = [] := by
  cases difference <;> rfl

@[simp]
theorem standardOutput_shown (difference : Text) :
    standardOutput (shown difference) = difference := by
  cases difference with
  | nil => rfl
  | cons c rest => exact standardOutput_out _

theorem length_shown (difference : Text) :
    (shown difference).length = if difference = [] then 0 else 1 := by
  cases difference <;> rfl

section Checking

variable {filter : Log.Filter} {point : Standpoint} {settingsPath : Option Text}
  {namesFiles : Bool} {file : Text} {migrated : MigratedFile}

theorem checkFiles_unreadable {fault : Fault}
    (h : (migrateFile point settingsPath file).2 = .error fault) (files : List Text) :
    checkFiles filter settingsPath point namesFiles (file :: files) =
      ⟨point.disk, heading namesFiles file ++
        logged filter (migrateFile point settingsPath file).1, .error fault⟩ := by
  rw [checkFiles]
  simp only [h, heading]

theorem checkFiles_migrated (h : (migrateFile point settingsPath file).2 = .ok migrated)
    (files : List Text) :
    checkFiles filter settingsPath point namesFiles (file :: files) =
      let later := checkFiles filter settingsPath point namesFiles files
      let difference := shown (Diff.unified file migrated.source migrated.result.text)
      ⟨later.disk, heading namesFiles file ++
        logged filter (migrateFile point settingsPath file).1 ++ difference ++ later.printed,
        later.ending.map (· + difference.length)⟩ := by
  rw [checkFiles]
  simp only [h, heading, shown]

/-- A check writes nothing. -/
theorem checkFiles_disk (filter : Log.Filter) (settingsPath : Option Text) (point : Standpoint)
    (namesFiles : Bool) (files : List Text) :
    (checkFiles filter settingsPath point namesFiles files).disk = point.disk := by
  induction files with
  | nil => rfl
  | cons file files ih =>
      cases h : (migrateFile point settingsPath file).2 with
      | error fault => rw [checkFiles_unreadable h]
      | ok migrated =>
          rw [checkFiles_migrated h]
          exact ih

theorem migrated_of_checkFiles {files : List Text} {count : Nat}
    (h : (checkFiles filter settingsPath point namesFiles files).ending = .ok count) :
    ∀ file ∈ files, ∃ migrated, (migrateFile point settingsPath file).2 = .ok migrated := by
  induction files generalizing count with
  | nil => exact fun _ hfile => nomatch hfile
  | cons first files ih =>
      cases hfirst : (migrateFile point settingsPath first).2 with
      | error fault =>
          rw [checkFiles_unreadable hfirst] at h
          cases h
      | ok migrated =>
          rw [checkFiles_migrated hfirst] at h
          cases hlater : (checkFiles filter settingsPath point namesFiles files).ending with
          | error fault => simp [hlater, Except.map] at h
          | ok changed => exact List.forall_mem_cons.mpr ⟨⟨migrated, hfirst⟩, ih hlater⟩

/-- A check of files that can all be migrated shows the difference of each, and counts those
that are not empty. -/
theorem checkFiles_of_migrated {files : List Text} {before after : Text → Text}
    (h : ∀ file ∈ files, ∃ migrated, (migrateFile point settingsPath file).2 = .ok migrated ∧
      migrated.source = before file ∧ migrated.result.text = after file) :
    standardOutput (checkFiles filter settingsPath point namesFiles files).printed =
        files.flatMap (fun file => (if namesFiles then
          line ["Processing file: ".toList, file] else []) ++
            Diff.unified file (before file) (after file)) ∧
      (checkFiles filter settingsPath point namesFiles files).ending =
        .ok (files.countP fun file => Diff.unified file (before file) (after file) ≠ []) := by
  induction files with
  | nil => exact ⟨rfl, rfl⟩
  | cons file files ih =>
      obtain ⟨⟨migrated, hmigrated, hbefore, hafter⟩, hfiles⟩ := List.forall_mem_cons.mp h
      obtain ⟨hprinted, hending⟩ := ih hfiles
      rw [checkFiles_migrated hmigrated, hbefore, hafter]
      constructor
      · simp only [standardOutput_append, standardOutput_heading, standardOutput_logged,
          standardOutput_shown, hprinted, List.append_nil, List.flatMap_cons]
      · simp only [hending, Except.map, length_shown, List.countP_cons]
        by_cases hempty : Diff.unified file (before file) (after file) = []
        · simp [hempty]
        · simp [hempty]

end Checking

/-- A check and an update that end alike and print the same on the error output. -/
structure Alike (checked : Progress Nat) (updated : Progress Unit) : Prop where
  errorOutput_eq : errorOutput updated.printed = errorOutput checked.printed
  ending_eq : updated.ending = checked.ending.map fun _ => ()

theorem Alike.fails_iff {checked : Progress Nat} {updated : Progress Unit}
    (h : Alike checked updated) (fault : Fault) :
    checked.ending = .error fault ↔ updated.ending = .error fault := by
  rw [h.ending_eq]
  cases checked.ending <;> simp [Except.map]

theorem Alike.errorOutput_result {checked : Progress Nat} {updated : Progress Unit}
    (h : Alike checked updated) (warned : List Output) (checkStatus : Nat → Nat)
    (updateStatus : Unit → Nat) :
    errorOutput ((checked.after warned).result checkStatus).printed =
      errorOutput ((updated.after warned).result updateStatus).printed := by
  simp only [Program.errorOutput_result, Progress.after, errorOutput_append, h.errorOutput_eq,
    h.ending_eq]
  cases checked.ending <;> rfl

section Twins

variable {point : Standpoint} {settingsPath : Option Text} {files : List Text} {disk : Disk}

theorem checkFiles_alike (filter : Log.Filter)
    (hwritable : (Standpoint.mk disk point.here).Writable)
    (hseparate : Separate point settingsPath files)
    (hagrees : point.Agrees (readPaths point settingsPath files) disk) (namesFiles : Bool) :
    Alike (checkFiles filter settingsPath point namesFiles files)
      (updateFiles filter settingsPath point.here disk files) := by
  -- The disk of the update moves on. What carries the induction is that it agrees with that of
  -- the check on all paths which are still to be read.
  induction files generalizing disk with
  | nil => exact ⟨rfl, rfl⟩
  | cons file files ih =>
      cases hfile : (migrateFile point settingsPath file).2 with
      | error fault =>
          have hfault : (migrateFile ⟨disk, point.here⟩ settingsPath file).2 = .error fault := by
            rw [migrateFile_agrees hagrees, hfile]
          rw [updateFiles_unreadable hfault, checkFiles_unreadable hfile,
            migrateFile_agrees hagrees]
          exact ⟨by simp, rfl⟩
      | ok migrated =>
          obtain ⟨location, next, _, hexchanged, hnext, hupdate⟩ :=
            updateFiles_next filter hwritable hseparate hagrees hfile
          obtain ⟨hprinted, hending⟩ := ih (hwritable.exchanged hexchanged)
            (hseparate.tail (readText_of_migrateFile hfile)) hnext
          rw [hupdate, checkFiles_migrated hfile]
          constructor
          · simp only [Progress.after, errorOutput_append, hprinted, errorOutput_heading,
              errorOutput_shown, errorOutput_out, List.append_nil, List.nil_append]
          · simp only [Progress.after, hending]
            cases (checkFiles filter settingsPath point namesFiles files).ending <;> rfl

/-- An update leaves in each file what a check has shown for it. -/
theorem readText_updateFiles (filter : Log.Filter)
    (hwritable : (Standpoint.mk disk point.here).Writable)
    (hseparate : Separate point settingsPath files)
    (hagrees : point.Agrees (readPaths point settingsPath files) disk)
    (hall : ∀ file ∈ files, ∃ migrated, (migrateFile point settingsPath file).2 = .ok migrated)
    {file : Text} (hfile : file ∈ files) {migrated : MigratedFile}
    (hmigrated : (migrateFile point settingsPath file).2 = .ok migrated) :
    (Standpoint.mk (updateFiles filter settingsPath point.here disk files).disk
      point.here).readText file = .ok migrated.result.text := by
  induction files generalizing disk with
  | nil => cases hfile
  | cons first files ih =>
      obtain ⟨⟨changed, hfirst⟩, hrest⟩ := List.forall_mem_cons.mp hall
      obtain ⟨location, next, hresolve, hexchanged, hnext, hupdate⟩ :=
        updateFiles_next filter hwritable hseparate hagrees hfirst
      have hread := readText_of_migrateFile hfirst
      have hnextWritable := hwritable.exchanged hexchanged
      rw [hupdate]
      obtain rfl | hfile := List.mem_cons.mp hfile
      · rw [hmigrated] at hfirst
        cases hfirst
        -- No later file stands where this one does, so what was written here stays.
        obtain ⟨done, left, rfl, hdone, _⟩ :=
          updateFiles_overwrites filter settingsPath point.here files hnextWritable
        have hstays := hdone.find?_eq fun other hother => by
          rw [Standpoint.resolve_shape hnext.sameShape]
          exact hseparate.resolve_ne hread hresolve (by simp [readPaths, hother])
        refine Standpoint.readText_eq_ok_iff.mpr ⟨location, ?_, ?_⟩
        · exact (Standpoint.resolve_shape
            (hnext.sameShape.trans hdone.sameShape) point.here file).trans hresolve
        · exact hstays.trans (by rw [hexchanged.find?_eq, if_pos rfl])
      · exact ih hnextWritable (hseparate.tail hread) hnext hrest hfile

end Twins

theorem result_after {α : Type} (status : α → Nat) (progress : Progress α)
    (earlier : List Output) :
    (progress.after earlier).result status =
      { progress.result status with
        printed := earlier ++ (progress.result status).printed } := by
  simp only [Progress.result, Progress.after]
  cases progress.ending with
  | ok value => rfl
  | error fault => simp only [List.append_assoc]

theorem run_eq_result {point : Standpoint} {logSpecification : Option Text}
    {commandLine : List Text} {arguments : Arguments}
    (hread : Arguments.read commandLine = .ok (.run arguments)) {α : Type} {status : α → Nat}
    {progress : Progress α}
    (hexecute : execute (Log.Filter.ofRun logSpecification arguments.verbosity).1 point arguments =
      progress.result status) :
    run point logSpecification commandLine =
      (progress.after (warnings logSpecification arguments.verbosity)).result status := by
  rw [run_eq hread, result_after, ← hexecute]

/-- What a check says about an update of the files for which the same arguments stand. -/
structure Foretells (point : Standpoint) (expansion : Except Fault (List Text))
    (checked : Progress Nat) (updated : Progress Unit) : Prop where
  writes_nothing : checked.disk = point.disk
  fails_iff : ∀ fault, checked.ending = .error fault ↔ updated.ending = .error fault
  /-- For each file the difference between its texts before and after the update is shown. It is
  not empty exactly if the bytes change. -/
  shows : ∀ count, checked.ending = .ok count →
    ∃ (files : List Text) (before after : Text → Text), expansion = .ok files ∧
      (∀ file ∈ files, point.readText file = .ok (before file) ∧
        (Standpoint.mk updated.disk point.here).readText file = .ok (after file) ∧
        (Diff.unified file (before file) (after file) ≠ [] ↔
          Standpoint.entry? ⟨updated.disk, point.here⟩ file ≠ point.entry? file)) ∧
      standardOutput checked.printed =
        files.flatMap (fun file =>
          (if 1 < files.length then line ["Processing file: ".toList, file] else []) ++
            Diff.unified file (before file) (after file)) ∧
      count = files.countP fun file => Diff.unified file (before file) (after file) ≠ []

section Prediction

variable {point : Standpoint} {settingsPath : Option Text} {files : List Text}
  (hwritable : point.Writable) (hseparate : Separate point settingsPath files)

include hwritable hseparate

theorem checkFiles_foretells (filter : Log.Filter) :
    Foretells point (.ok files)
      (checkFiles filter settingsPath point (1 < files.length) files)
      (updateFiles filter settingsPath point.here point.disk files) where
  writes_nothing := checkFiles_disk _ _ _ _ _
  fails_iff := (checkFiles_alike filter hwritable hseparate (.refl _ _) _).fails_iff
  shows count hcount := by
    have hmigrated := migrated_of_checkFiles hcount
    have hchange : ∀ file ∈ files, ∃ before after, ∃ migrated,
        (migrateFile point settingsPath file).2 = .ok migrated ∧
          migrated.source = before ∧ migrated.result.text = after := by
      intro file hfile
      obtain ⟨migrated, h⟩ := hmigrated file hfile
      exact ⟨_, _, migrated, h, rfl, rfl⟩
    choose! before after hchange using hchange
    obtain ⟨hprinted, hending⟩ := checkFiles_of_migrated hchange
    refine ⟨files, before, after, rfl, fun file hfile => ?_, ?_,
      Except.ok.inj (hcount.symm.trans hending)⟩
    · obtain ⟨migrated, h, hbefore, hafter⟩ := hchange file hfile
      have hread := readText_of_migrateFile h
      have hreadAfter := readText_updateFiles filter hwritable hseparate (.refl _ _) hmigrated
        hfile h
      rw [hbefore] at hread
      rw [hafter] at hreadAfter
      refine ⟨hread, hreadAfter, not_congr ?_⟩
      rw [Diff.unified_eq_nil_iff, Standpoint.entry?_eq_iff hread hreadAfter]
    · simp only [decide_eq_true_eq] at hprinted
      exact hprinted

end Prediction

section Runs

variable {point : Standpoint} {arguments : Arguments} (filter : Log.Filter)
  (hwritable : point.Writable)
  (hseparate : ∀ files, Expansion.allFiles point arguments.arePatterns arguments.filenames =
    .ok files → Separate point arguments.settingsPath files)

include hwritable hseparate

theorem check_alike : Alike (check filter point arguments) (update filter point arguments) := by
  rw [check, update]
  split
  · exact ⟨rfl, rfl⟩
  · exact checkFiles_alike filter hwritable (hseparate _ ‹_›) (.refl _ _) _

theorem check_foretells :
    Foretells point (Expansion.allFiles point arguments.arePatterns arguments.filenames)
      (check filter point arguments) (update filter point arguments) := by
  rw [check, update]
  cases hfiles : Expansion.allFiles point arguments.arePatterns arguments.filenames with
  | error fault =>
      refine ⟨rfl, Alike.fails_iff ⟨rfl, rfl⟩, ?_⟩
      intro _ hcount
      cases hcount
  | ok files => exact checkFiles_foretells hwritable (hseparate files hfiles) filter

end Runs

/-- A check run foretells the run of the same arguments without the switch, if the files for
which they stand are separate. The two print the same on the error output. -/
theorem run_check_foretells {point : Standpoint} (hwritable : point.Writable) {program : Text}
    {tokens : List Text} {arguments : Arguments}
    (hread : Arguments.read (program :: tokens) = .ok (.run arguments))
    (hcommand : arguments.command = .check)
    (hseparate : ∀ files, Expansion.allFiles point arguments.arePatterns arguments.filenames =
      .ok files → Separate point arguments.settingsPath files) (logSpecification : Option Text) :
    ∃ (changing : Arguments) (filter : Log.Filter) (warned : List Output),
      Arguments.read (program :: tokens.erase Arguments.checkToken) = .ok (.run changing) ∧
      changing.command = .update ∧
      run point logSpecification (program :: tokens) =
        ((check filter point arguments).after warned).result countStatus ∧
      run point logSpecification (program :: tokens.erase Arguments.checkToken) =
        ((update filter point changing).after warned).result (fun _ => 0) ∧
      errorOutput (run point logSpecification (program :: tokens)).printed =
        errorOutput (run point logSpecification
          (program :: tokens.erase Arguments.checkToken)).printed ∧
      Foretells point (Expansion.allFiles point arguments.arePatterns arguments.filenames)
        (check filter point arguments) (update filter point changing) := by
  have hchanging := Arguments.read_erase_check hread hcommand
  have hcheck : run point logSpecification (program :: tokens) = _ :=
    run_eq_result hread (by rw [execute, hcommand])
  have hupdate : run point logSpecification (program :: tokens.erase Arguments.checkToken) = _ :=
    run_eq_result hchanging rfl
  refine ⟨_, _, _, hchanging, rfl, hcheck, hupdate, ?_, check_foretells _ hwritable hseparate⟩
  rw [hcheck, hupdate]
  exact (check_alike _ hwritable hseparate).errorOutput_result _ _ _

/-- Two sources in the current directory, and the settings file that governs them. -/
def governedSources : Standpoint :=
  ⟨⟨twoSources.disk.entries ++
    [(["t".toList, Settings.fileName], .file "mock_helper = \"stub\"".toUTF8)]⟩, twoSources.here⟩

def governedNames : List Text :=
  ["a.swift".toList, "b.swift".toList]

theorem consulted_governedSources :
    consulted governedSources none governedNames =
      ["/t/mockmigrate.toml".toList, "/t/mockmigrate.toml".toList] := by
  decide +kernel

theorem separate_governedSources : Separate governedSources none governedNames := by
  have hfirst : governedSources.resolve "a.swift".toList =
      .ok ["t".toList, "a.swift".toList] := rfl
  have hsecond : governedSources.resolve "b.swift".toList =
      .ok ["t".toList, "b.swift".toList] := rfl
  have hsettings : governedSources.resolve "/t/mockmigrate.toml".toList =
      .ok ["t".toList, Settings.fileName] := rfl
  refine ⟨.cons ?_ (List.pairwise_singleton _ _), ?_⟩
  · intro other hother location hfile hsame
    obtain rfl := List.mem_singleton.mp hother
    rw [hsecond, ← hfile, hfirst] at hsame
    exact absurd hsame (by decide)
  · rw [consulted_governedSources]
    intro path hpath file hfile location hgoverning hsame
    simp only [governedNames, List.mem_cons, or_self, List.not_mem_nil, or_false] at hpath hfile
    rw [hpath, hsettings] at hgoverning
    rw [← hgoverning] at hsame
    obtain rfl | rfl := hfile
    · exact absurd (hfirst.symm.trans hsame) (by decide)
    · exact absurd (hsecond.symm.trans hsame) (by decide)

theorem run_check_governedSources :
    governedSources.Writable ∧
      Arguments.read ("mockmigrate".toList :: Arguments.checkToken :: governedNames) =
        .ok (.run ⟨.check, governedNames, none, none, false⟩) ∧
      Separate governedSources none governedNames ∧
      ∃ changing filter warned,
        Arguments.read ("mockmigrate".toList :: governedNames) = .ok (.run changing) ∧
        run governedSources none ("mockmigrate".toList :: Arguments.checkToken :: governedNames) =
          ((check filter governedSources ⟨.check, governedNames, none, none, false⟩).after
            warned).result countStatus ∧
        Foretells governedSources (.ok governedNames)
          (check filter governedSources ⟨.check, governedNames, none, none, false⟩)
          (update filter governedSources changing) ∧
        (run governedSources none
          ("mockmigrate".toList :: Arguments.checkToken :: governedNames)).status = 2 := by
  have hwritable : governedSources.Writable :=
    Standpoint.writable_of_isTree (Disk.isTree_of_entries (by decide))
  have hread : Arguments.read ("mockmigrate".toList :: Arguments.checkToken :: governedNames) =
      .ok (.run ⟨.check, governedNames, none, none, false⟩) := by decide +kernel
  have hseparate : ∀ files, Expansion.allFiles governedSources false governedNames = .ok files →
      Separate governedSources none files := by
    intro files hfiles
    cases hfiles
    exact separate_governedSources
  obtain ⟨changing, filter, warned, hchanging, _, hrun, _, _, hforetells⟩ :=
    run_check_foretells hwritable hread rfl hseparate none
  exact ⟨hwritable, hread, separate_governedSources, changing, filter, warned, hchanging, hrun,
    hforetells, by decide +kernel⟩

end Program

end StagedMocks
