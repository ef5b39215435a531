import Mathlib.Algebra.Group.Nat.Defs
import StagedMocks.Proofs.Program.Check

/-!
The exit status of a check as a gate. It is zero only if all files can be read, and then it is
the last byte of the number of files that would change. So it tells files that need a migration
from files that do not, unless that number is a positive multiple of 256.
-/
namespace StagedMocks

theorem Expansion.exists_of_allFiles {point : Standpoint} {isPattern : Bool}
    {arguments expanded : List Text} (h : allFiles point isPattern arguments = .ok expanded) :
    ∃ expansions, List.Forall₂ (fun argument files =>
      Expansion.files point isPattern argument = .ok files) arguments expansions ∧
      expanded = expansions.flatten := by
  obtain ⟨expansions, hexpansions, h⟩ := bind_eq_ok h
  cases h
  exact ⟨expansions, forall₂_of_mapM hexpansions, rfl⟩

namespace Program

/-- Whether the migration of a file would change it. -/
def changes (point : Standpoint) (settingsPath : Option Text) (file : Text) : Bool :=
  match (migrateFile point settingsPath file).2 with
  | .ok migrated => migrated.result.text != migrated.source
  | .error _ => false

/-- Every argument stands for files, all of these can be read, and `changed` of them would be
changed. -/
def Surveyed (point : Standpoint) (arguments : Arguments) (changed : Nat) : Prop :=
  ∃ expansions, List.Forall₂ (fun argument files =>
      Expansion.files point arguments.arePatterns argument = .ok files)
      arguments.filenames expansions ∧
    (∀ file ∈ expansions.flatten, ∃ text, point.readText file = .ok text) ∧
    expansions.flatten.countP (changes point arguments.settingsPath) = changed

section Counting

variable {filter : Log.Filter} {point : Standpoint} {settingsPath : Option Text}
  {namesFiles : Bool} {files : List Text}

/-- A file counts exactly if it would change, and one that cannot be read ends the check. -/
theorem checkFiles_ending_iff {changed : Nat} :
    (checkFiles filter settingsPath point namesFiles files).ending = .ok changed ↔
      (∀ file ∈ files, ∃ text, point.readText file = .ok text) ∧
        files.countP (changes point settingsPath) = changed := by
  induction files generalizing changed with
  | nil => simp [checkFiles]
  | cons file files ih =>
      rw [List.forall_mem_cons, List.countP_cons]
      obtain ⟨cause, hread, hfault⟩ | ⟨source, result, hread, hresult, hmigrated⟩ :=
        migrateFile_cases point settingsPath file
      · rw [checkFiles_unreadable hfault, hread]
        constructor
        · intro h
          cases h
        · rintro ⟨⟨⟨_, h⟩, _⟩, _⟩
          cases h
      · have hshown : (shown (Diff.unified file source result.text)).length =
            if changes point settingsPath file = true then 1 else 0 := by
          simp only [length_shown, Diff.unified_eq_nil_iff, changes, hmigrated]
          by_cases hsame : source = result.text
          · simp [hsame]
          · simp [hsame, Ne.symm hsame]
        rw [checkFiles_migrated hmigrated]
        dsimp only
        rw [hshown]
        constructor
        · intro h
          cases hlater : (checkFiles filter settingsPath point namesFiles files).ending with
          | error fault =>
              rw [hlater] at h
              cases h
          | ok count =>
              rw [hlater] at h
              cases h
              obtain ⟨hreadable, hcount⟩ := ih.mp hlater
              exact ⟨⟨⟨source, hread⟩, hreadable⟩, by rw [hcount]⟩
        · rintro ⟨⟨_, hreadable⟩, hcount⟩
          rw [ih.mpr ⟨hreadable, rfl⟩, ← hcount]
          rfl

end Counting

theorem Surveyed.unique {point : Standpoint} {arguments : Arguments} {changed changed' : Nat}
    (h : Surveyed point arguments changed) (h' : Surveyed point arguments changed') :
    changed = changed' := by
  obtain ⟨expansions, hexpansions, _, hcount⟩ := h
  obtain ⟨expansions', hexpansions', _, hcount'⟩ := h'
  have hsame := (Expansion.allFiles_of_forall₂ hexpansions).symm.trans
    (Expansion.allFiles_of_forall₂ hexpansions')
  rw [← hcount, ← hcount', Except.ok.inj hsame]

theorem check_ending_iff {filter : Log.Filter} {point : Standpoint} {arguments : Arguments}
    {changed : Nat} :
    (check filter point arguments).ending = .ok changed ↔ Surveyed point arguments changed := by
  rw [check]
  constructor
  · intro h
    cases hfiles : Expansion.allFiles point arguments.arePatterns arguments.filenames with
    | error fault =>
        rw [hfiles] at h
        cases h
    | ok files =>
        rw [hfiles] at h
        obtain ⟨expansions, hexpansions, rfl⟩ := Expansion.exists_of_allFiles hfiles
        exact ⟨expansions, hexpansions, checkFiles_ending_iff.mp h⟩
  · rintro ⟨expansions, hexpansions, hchecked⟩
    rw [Expansion.allFiles_of_forall₂ hexpansions]
    exact checkFiles_ending_iff.mpr hchecked

/-- A count is kept in 32 bits with a sign, and its last eight are seen. -/
theorem countStatus_eq_zero_iff {count : Nat} :
    countStatus count = 0 ↔ 256 ∣ count ∧ count < 2 ^ 31 := by
  rw [countStatus]
  omega

theorem status_result_eq_zero_iff {α : Type} {status : α → Nat} {progress : Progress α} :
    (progress.result status).status = 0 ↔
      ∃ value, progress.ending = .ok value ∧ status value = 0 := by
  rw [Progress.result]
  cases progress.ending with
  | ok value => simp
  | error fault => simp

theorem status_check {point : Standpoint} {logSpecification : Option Text}
    {commandLine : List Text} {arguments : Arguments}
    (hread : Arguments.read commandLine = .ok (.run arguments))
    (hcommand : arguments.command = .check) :
    (run point logSpecification commandLine).status = 0 ↔
      ∃ changed, Surveyed point arguments changed ∧ 256 ∣ changed ∧ changed < 2 ^ 31 := by
  have hrun : run point logSpecification commandLine = _ :=
    run_eq_result hread (by rw [execute, hcommand])
  rw [hrun, status_result_eq_zero_iff]
  simp only [Progress.after, check_ending_iff, countStatus_eq_zero_iff]

/-- The status of a check is zero exactly if every argument stands for files, all these can be
read, and a multiple of 256 of them would change, as far as 32 bits can count. So it is a gate
for changes exactly if that multiple is not a positive one. -/
theorem run_check_gate_iff {point : Standpoint} {commandLine : List Text} {arguments : Arguments}
    (hread : Arguments.read commandLine = .ok (.run arguments))
    (hcommand : arguments.command = .check) (logSpecification : Option Text) :
    ((run point logSpecification commandLine).status = 0 ↔
        ∃ changed, Surveyed point arguments changed ∧ 256 ∣ changed ∧ changed < 2 ^ 31) ∧
      (((run point logSpecification commandLine).status = 0 ↔ Surveyed point arguments 0) ↔
        ∀ changed, Surveyed point arguments changed → 256 ∣ changed → changed < 2 ^ 31 →
          changed = 0) := by
  have hstatus := @status_check point logSpecification commandLine arguments hread hcommand
  refine ⟨hstatus, ?_⟩
  rw [hstatus]
  constructor
  · intro hgate changed hsurveyed hmultiple hsmall
    have hzero := hgate.mp ⟨changed, hsurveyed, hmultiple, hsmall⟩
    exact hsurveyed.unique hzero
  · intro hno
    constructor
    · rintro ⟨changed, hsurveyed, hmultiple, hsmall⟩
      rw [← hno changed hsurveyed hmultiple hsmall]
      exact hsurveyed
    · intro hzero
      exact ⟨0, hzero, Nat.dvd_zero _, by decide⟩

theorem surveyed_of_names {point : Standpoint} {arguments : Arguments}
    (hnames : ∀ name ∈ arguments.filenames,
      Expansion.files point arguments.arePatterns name = .ok [name] ∧
        ∃ text, point.readText name = .ok text) :
    Surveyed point arguments
      (arguments.filenames.countP (changes point arguments.settingsPath)) := by
  have hflat : (arguments.filenames.map ([·])).flatten = arguments.filenames :=
    List.flatMap_singleton' _
  refine ⟨arguments.filenames.map ([·]), ?_, ?_, by rw [hflat]⟩
  · rw [List.forall₂_map_right_iff, List.forall₂_same]
    exact fun name hname => (hnames name hname).1
  · rw [hflat]
    exact fun name hname => (hnames name hname).2

theorem run_check_gate_twoSources :
    Arguments.read ("mockmigrate".toList :: Arguments.checkToken :: governedNames) =
        .ok (.run ⟨.check, governedNames, none, none, false⟩) ∧
      Surveyed twoSources ⟨.check, governedNames, none, none, false⟩ 2 ∧
      ((run twoSources none
          ("mockmigrate".toList :: Arguments.checkToken :: governedNames)).status = 0 ↔
        Surveyed twoSources ⟨.check, governedNames, none, none, false⟩ 0) := by
  have hread : Arguments.read ("mockmigrate".toList :: Arguments.checkToken :: governedNames) =
      .ok (.run ⟨.check, governedNames, none, none, false⟩) := by decide +kernel
  have hsurveyed : Surveyed twoSources ⟨.check, governedNames, none, none, false⟩ 2 := by
    have hcount : governedNames.countP (changes twoSources none) = 2 := by decide +kernel
    rw [← hcount]
    apply surveyed_of_names
    intro name hname
    obtain rfl | rfl : name = "a.swift".toList ∨ name = "b.swift".toList := by
      simpa [governedNames] using hname
    · exact ⟨rfl, "func test_a() \x7b\n    \x7d".toList, by decide +kernel⟩
    · exact ⟨rfl, "func test_b() \x7b\n    \x7d".toList, by decide +kernel⟩
  refine ⟨hread, hsurveyed, (run_check_gate_iff hread rfl none).2.mpr ?_⟩
  intro changed hchanged hmultiple _
  rw [hchanged.unique hsurveyed] at hmultiple
  exact absurd hmultiple (by decide)

/-- One source, named as often as the last byte of a count cannot tell from never. -/
def repeatedSource : List Text :=
  List.replicate 256 "a.swift".toList

theorem run_check_gate_repeatedSource :
    Arguments.read ("mockmigrate".toList :: Arguments.checkToken :: repeatedSource) =
        .ok (.run ⟨.check, repeatedSource, none, none, false⟩) ∧
      Surveyed twoSources ⟨.check, repeatedSource, none, none, false⟩ 256 ∧
      ¬ ((run twoSources none
          ("mockmigrate".toList :: Arguments.checkToken :: repeatedSource)).status = 0 ↔
        Surveyed twoSources ⟨.check, repeatedSource, none, none, false⟩ 0) := by
  have hread : Arguments.read ("mockmigrate".toList :: Arguments.checkToken :: repeatedSource) =
      .ok (.run ⟨.check, repeatedSource, none, none, false⟩) := by decide +kernel
  have hsurveyed : Surveyed twoSources ⟨.check, repeatedSource, none, none, false⟩ 256 := by
    have hchanges : changes twoSources none "a.swift".toList = true := by decide +kernel
    have hcount : repeatedSource.countP (changes twoSources none) = 256 := by
      rw [repeatedSource, List.countP_replicate, if_pos hchanges]
    rw [← hcount]
    apply surveyed_of_names
    intro name hname
    obtain rfl := List.eq_of_mem_replicate hname
    exact ⟨rfl, "func test_a() \x7b\n    \x7d".toList, by decide +kernel⟩
  refine ⟨hread, hsurveyed, fun hgate => ?_⟩
  have hstatus : (run twoSources none _).status = 0 :=
    (status_check hread rfl).mpr ⟨256, hsurveyed, Nat.dvd_refl _, by decide⟩
  exact absurd (hsurveyed.unique (hgate.mp hstatus)) (by decide)

end Program

end StagedMocks
