import Mathlib.Data.List.Nodup
import StagedMocks.Proofs.Arguments.Reading

/-!
The options of a run. What has been read is a list of options and a list of files, and finishing
it gives the run whose options are those of the list, whatever their order: a run over the
files, or the making of a settings file, beside which there can be a log level only.
-/
namespace StagedMocks.Arguments

/-- An option of a run, with the value that it has. -/
inductive Choice where
  | check
  | multi
  | config (path : Text)
  | level (verbosity : Log.Verbosity)
  | initialise (path : Text)
  deriving DecidableEq, Repr

namespace Choice

def switch : Choice → Switch
  | .check => .check
  | .multi => .multi
  | .config _ => .config
  | .level _ => .logLevel
  | .initialise _ => .initConfig

def value? : Choice → Option Text
  | .check | .multi => none
  | .config path | .initialise path => some path
  | .level verbosity => some verbosity.name.toList

/-- The switch as it is kept when it counts as given. -/
def entry (choice : Choice) : Switch × Text :=
  (choice.switch, choice.value?.getD [])

end Choice

theorem ofName?_eq_some_iff {name : Text} {verbosity : Log.Verbosity} :
    Log.Verbosity.ofName? name = some verbosity ↔ verbosity.name.toList = name := by
  constructor
  · intro h
    have hname := List.find?_some h
    exact of_decide_eq_true hname
  · rintro rfl
    cases verbosity <;> decide

theorem Choice.entry_injective : Function.Injective Choice.entry := by
  intro choice other h
  obtain ⟨hswitch, hvalue⟩ := Prod.mk.inj h
  cases choice with
  | level verbosity =>
      cases other with
      | level verbosity' =>
          have hname : verbosity.name.toList = verbosity'.name.toList := hvalue
          have hsame := ofName?_eq_some_iff.mpr hname
          rw [ofName?_eq_some_iff.mpr rfl, Option.some.injEq] at hsame
          rw [hsame]
      | check | multi | config path | initialise path => cases hswitch
  | check | multi | config path | initialise path =>
      cases other with
      | check | multi | config path | initialise path | level verbosity =>
          cases hswitch <;> cases hvalue <;> rfl

/-- The options of a run over files, each of them once. -/
def options (arguments : Arguments) : List Choice :=
  (if arguments.command = .check then [.check] else []) ++
    (if arguments.arePatterns then [.multi] else []) ++
    (arguments.settingsPath.map .config).toList ++ (arguments.verbosity.map .level).toList

/-- The options beside which files go unused. -/
def pathOptions (path : Text) (verbosity : Option Log.Verbosity) : List Choice :=
  .initialise path :: (verbosity.map .level).toList

theorem mem_options_iff {arguments : Arguments} {choice : Choice} :
    choice ∈ arguments.options ↔
      match choice with
      | .check => arguments.command = .check
      | .multi => arguments.arePatterns = true
      | .config path => arguments.settingsPath = some path
      | .level verbosity => arguments.verbosity = some verbosity
      | .initialise _ => False := by
  cases choice <;> simp [options]

theorem options_once (arguments : Arguments) :
    (arguments.options.map Choice.switch).Nodup := by
  obtain ⟨command, files, path, verbosity, patterns⟩ := arguments
  cases command <;> cases path <;> cases verbosity <;> cases patterns <;>
    simp [options, Choice.switch]

theorem mem_pathOptions_iff {path : Text} {verbosity : Option Log.Verbosity} {choice : Choice} :
    choice ∈ pathOptions path verbosity ↔
      match choice with
      | .level given => verbosity = some given
      | .initialise other => other = path
      | .check | .multi | .config _ => False := by
  cases choice <;> simp [pathOptions]

theorem pathOptions_once (path : Text) (verbosity : Option Log.Verbosity) :
    ((pathOptions path verbosity).map Choice.switch).Nodup := by
  cases verbosity <;> simp [pathOptions, Choice.switch]

theorem eq_of_options_perm {arguments other : Arguments}
    (hcommand : arguments.command ≠ .initialise) (hcommand' : other.command ≠ .initialise)
    (hfiles : arguments.filenames = other.filenames)
    (h : arguments.options.Perm other.options) : arguments = other := by
  have hmem : ∀ choice, choice ∈ arguments.options ↔ choice ∈ other.options := fun _ => h.mem_iff
  simp only [mem_options_iff] at hmem
  have hcheck : arguments.command = .check ↔ other.command = .check := hmem .check
  have hsame : arguments.command = other.command := by
    cases hc : arguments.command with
    | initialise => exact absurd hc hcommand
    | check => exact (hcheck.mp hc).symm
    | update =>
        cases hc' : other.command with
        | update => rfl
        | initialise => exact absurd hc' hcommand'
        | check =>
            rw [hcheck.mpr hc'] at hc
            cases hc
  have hpath : arguments.settingsPath = other.settingsPath :=
    Option.ext fun path => hmem (.config path)
  have hverbosity : arguments.verbosity = other.verbosity :=
    Option.ext fun verbosity => hmem (.level verbosity)
  have hpatterns : arguments.arePatterns = other.arePatterns := Bool.eq_iff_iff.mpr (hmem .multi)
  cases arguments
  cases other
  rw [mk.injEq]
  exact ⟨hsame, hfiles, hpath, hverbosity, hpatterns⟩

theorem eq_of_pathOptions_perm {path path' : Text} {verbosity verbosity' : Option Log.Verbosity}
    (h : (pathOptions path verbosity).Perm (pathOptions path' verbosity')) :
    path = path' ∧ verbosity = verbosity' := by
  have hmem : ∀ choice, choice ∈ pathOptions path verbosity ↔
      choice ∈ pathOptions path' verbosity' := fun _ => h.mem_iff
  simp only [mem_pathOptions_iff] at hmem
  exact ⟨(hmem (.initialise path)).mp rfl, Option.ext fun v => hmem (.level v)⟩

/-- The reading that has options and files. -/
def collected (choices : List Choice) (files : List Text) : Reading :=
  ⟨choices.map Choice.entry, files, none⟩

section Collected

variable {choices : List Choice} {files : List Text}

theorem switches_collected :
    (collected choices files).given.map Prod.fst = choices.map Choice.switch := by
  simp [collected, Choice.entry]

theorem isGiven_flag_iff {flag : Choice} (hflag : flag.value? = none) :
    (collected choices files).isGiven flag.switch = true ↔ flag ∈ choices := by
  rw [← Bool.not_eq_false, Reading.isGiven_eq_false_iff, not_not, switches_collected,
    List.mem_map]
  constructor
  · intro ⟨choice, hmem, hswitch⟩
    cases flag with
    | check =>
        cases choice with
        | check => exact hmem
        | multi | config path | initialise path | level verbosity => cases hswitch
    | multi =>
        cases choice with
        | multi => exact hmem
        | check | config path | initialise path | level verbosity => cases hswitch
    | config path | initialise path | level verbosity => cases hflag
  · exact fun hmem => ⟨_, hmem, rfl⟩

theorem value?_collected_iff (honce : (choices.map Choice.switch).Nodup) (choice : Choice) :
    (collected choices files).value? choice.switch = some (choice.value?.getD []) ↔
      choice ∈ choices := by
  rw [← @switches_collected _ files] at honce
  rw [Reading.value?_eq_some_iff honce]
  exact List.mem_map_of_injective Choice.entry_injective

theorem level_collected_iff (honce : (choices.map Choice.switch).Nodup)
    (verbosity : Log.Verbosity) :
    ((collected choices files).value? .logLevel).bind Log.Verbosity.ofName? = some verbosity ↔
      Choice.level verbosity ∈ choices := by
  simp only [← @value?_collected_iff _ files honce, Option.bind_eq_some_iff, ofName?_eq_some_iff]
  constructor
  · rintro ⟨_, hvalue, rfl⟩
    exact hvalue
  · exact fun hvalue => ⟨_, hvalue, rfl⟩

end Collected

theorem excludes_eq_true_iff {switch other : Switch} :
    switch.excludes other = true ↔
      switch = .initConfig ∧ other ∈ [Switch.check, .multi, .config] ∨
      other = .initConfig ∧ switch ∈ [Switch.check, .multi, .config] := by
  cases switch <;> cases other <;> decide

section Finish

variable {choices : List Choice} {files : List Text} {arguments : Arguments}

/-- Beside the path of a settings file to make there can be a log level only. -/
theorem checkExclusions_collected_iff :
    (collected choices files).checkExclusions = .ok () ↔
      ∀ path, Choice.initialise path ∈ choices →
        ∀ choice ∈ choices, choice.switch ∉ [Switch.check, .multi, .config] := by
  rw [Reading.checkExclusions_eq_ok_iff, switches_collected]
  simp only [List.forall_mem_map, ← Bool.not_eq_true, excludes_eq_true_iff]
  constructor
  · intro h path hpath choice hchoice hswitch
    exact h _ hpath choice hchoice (.inl ⟨rfl, hswitch⟩)
  · intro h choice hchoice other hother hexcludes
    obtain ⟨hinit, hswitch⟩ | ⟨hinit, hswitch⟩ := hexcludes
    · cases choice with
      | initialise path => exact h path hchoice other hother hswitch
      | check | multi | config path | level verbosity => cases hinit
    · cases other with
      | initialise path => exact h path hother choice hchoice hswitch
      | check | multi | config path | level verbosity => cases hinit

/-- What a run over the collected files is asked for by the collected options. -/
def collectedRun (choices : List Choice) (files : List Text) : Arguments :=
  let reading := collected choices files
  ⟨if reading.isGiven .check then .check else .update, files, reading.value? .config,
    (reading.value? .logLevel).bind Log.Verbosity.ofName?, reading.isGiven .multi⟩

theorem collectedRun_command : (collectedRun choices files).command ≠ .initialise := by
  simp only [collectedRun]
  split <;> simp

theorem perm_collectedRun (honce : (choices.map Choice.switch).Nodup)
    (hinit : (collected choices files).value? .initConfig = none) :
    choices.Perm (collectedRun choices files).options := by
  refine (List.perm_ext_iff_of_nodup (honce.of_map _) ((options_once _).of_map _)).mpr ?_
  intro choice
  rw [mem_options_iff]
  cases choice with
  | check =>
      rw [← isGiven_flag_iff rfl]
      change (collected choices files).isGiven .check = true ↔
        (if (collected choices files).isGiven .check then Command.check else .update) = .check
      cases (collected choices files).isGiven .check <;> simp
  | multi => exact (isGiven_flag_iff rfl).symm
  | config path => exact (value?_collected_iff honce (.config path)).symm
  | level verbosity => exact (level_collected_iff honce verbosity).symm
  | initialise path =>
      rw [← value?_collected_iff honce]
      change (collected choices files).value? .initConfig = some path ↔ _
      rw [hinit]
      simp

theorem perm_collectedPath (honce : (choices.map Choice.switch).Nodup) {path : Text}
    (hinit : (collected choices files).value? .initConfig = some path)
    (hexclusions : ∀ choice ∈ choices, choice.switch ∉ [Switch.check, .multi, .config]) :
    choices.Perm (pathOptions path (collectedRun choices files).verbosity) := by
  refine (List.perm_ext_iff_of_nodup (honce.of_map _) ((pathOptions_once _ _).of_map _)).mpr ?_
  intro choice
  rw [mem_pathOptions_iff]
  cases choice with
  | check | multi | config other =>
      exact iff_false_intro fun hmem => hexclusions _ hmem (by simp [Choice.switch])
  | level verbosity => exact (level_collected_iff honce verbosity).symm
  | initialise other =>
      rw [← value?_collected_iff honce]
      change (collected choices files).value? .initConfig = some other ↔ _
      rw [hinit, Option.some.injEq, eq_comm]

/-- Without exclusions, the path of a settings file to make decides what is asked for. -/
theorem finish_collected (h : (collected choices files).checkExclusions = .ok ()) :
    (collected choices files).finish =
      match (collected choices files).value? .initConfig with
      | some path =>
          .ok ⟨.initialise, [path], none, (collectedRun choices files).verbosity, false⟩
      | none => if files.isEmpty then .error .noFiles else .ok (collectedRun choices files) := by
  have hsettle : (collected choices files).settle = .ok (collected choices files) := rfl
  simp only [Reading.finish, hsettle, bind, Except.bind, h]
  rfl

theorem finish_of_files (hcommand : arguments.command ≠ .initialise)
    (hfiles : arguments.filenames ≠ []) (honce : (choices.map Choice.switch).Nodup)
    (hperm : choices.Perm arguments.options) :
    (collected choices arguments.filenames).finish = .ok arguments := by
  have hno : ∀ path, Choice.initialise path ∉ choices := by
    intro path hpath
    exact mem_options_iff.mp (hperm.mem_iff.mp hpath)
  have hinit : (collected choices arguments.filenames).value? .initConfig = none := by
    refine Option.eq_none_iff_forall_ne_some.mpr fun path hpath => hno path ?_
    exact (value?_collected_iff honce (.initialise path)).mp hpath
  have hsame := eq_of_options_perm (@collectedRun_command choices arguments.filenames) hcommand
    rfl ((perm_collectedRun honce hinit).symm.trans hperm)
  have hexclusions : (collected choices arguments.filenames).checkExclusions = .ok () :=
    checkExclusions_collected_iff.mpr fun path hpath => absurd hpath (hno path)
  rw [finish_collected hexclusions, hinit, hsame]
  simp [hfiles]

theorem finish_of_path {path : Text} {verbosity : Option Log.Verbosity}
    (honce : (choices.map Choice.switch).Nodup)
    (hperm : choices.Perm (pathOptions path verbosity)) :
    (collected choices files).finish = .ok ⟨.initialise, [path], none, verbosity, false⟩ := by
  have hpath : Choice.initialise path ∈ choices :=
    hperm.mem_iff.mpr (mem_pathOptions_iff.mpr rfl)
  have hinit : (collected choices files).value? .initConfig = some path :=
    (value?_collected_iff honce (.initialise path)).mpr hpath
  have hplain : ∀ choice ∈ choices, choice.switch ∉ [Switch.check, .multi, .config] := by
    intro choice hmem
    have hoption := mem_pathOptions_iff.mp (hperm.mem_iff.mp hmem)
    cases choice with
    | level given | initialise other => simp [Choice.switch]
    | check | multi | config other => cases hoption
  obtain ⟨_, hverbosity⟩ :=
    eq_of_pathOptions_perm ((perm_collectedPath honce hinit hplain).symm.trans hperm)
  rw [finish_collected (checkExclusions_collected_iff.mpr fun _ _ => hplain), hinit, hverbosity]

end Finish

end StagedMocks.Arguments
