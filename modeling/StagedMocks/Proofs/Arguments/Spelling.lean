import Mathlib.Data.List.TakeDrop
import StagedMocks.Arguments.Reader

/-!
How arguments are spelled. A switch has its names, and one that takes a value has it behind an
equals sign; only the log level's value may follow the short name at once. An argument that
does not start with a hyphen, or is nothing but one, is plain. Every argument has one of these
forms, unless it asks for help or the version or is refused.
-/
namespace StagedMocks.Arguments

/-- The argument behind which there are files only. -/
def endToken : Text := "--".toList

/-- An argument that is a file, or a value on its own. -/
def IsPlain (token : Text) : Prop :=
  token = ['-'] ∨ token.head? ≠ some '-'

def Switch.spellings : Switch → List Text
  | .logLevel => ["--log-level".toList, "-l".toList]
  | .config => ["--config".toList]
  | .check => ["--check".toList]
  | .multi => ["--multi".toList]
  | .initConfig => ["--init-config".toList]

/-- The forms of arguments. -/
inductive Means : Text → Meaning → Prop where
  | plain {token : Text} : IsPlain token → Means token .plain
  | ending : Means endToken .endOfSwitches
  | bare {switch : Switch} {name : Text} :
      name ∈ switch.spellings → Means name (.switch switch none)
  | attached {switch : Switch} {name : Text} (value : Text) :
      switch.valueName?.isSome = true → name ∈ switch.spellings →
      Means (name ++ '=' :: value) (.switch switch (some value))
  | joined {value : Text} :
      value ≠ [] → value.head? ≠ some '=' →
      Means ("-l".toList ++ value) (.switch .logLevel (some value))
  | help (token : Text) (isLong : Bool) : Means token (.help isLong)
  | version (token : Text) : Means token .version
  | refused (token : Text) (refusal : Refusal) : Means token (.refused refusal)

theorem name_mem_spellings (switch : Switch) :
    "--".toList ++ switch.name.toList ∈ switch.spellings := by
  cases switch <;> decide

theorem means_longMeaning (name : Text) (value : Option Text) :
    Means ("--".toList ++ name ++ value.elim [] ('=' :: ·)) (longMeaning name value) := by
  simp only [longMeaning]
  split
  · cases value with
    | none => exact .help _ _
    | some value => exact .refused _ _
  · split
    · cases value with
      | none => exact .version _
      | some value => exact .refused _ _
    · split
      · exact .refused _ _
      · rename_i switch hfind
        have hname := List.find?_some hfind
        obtain rfl : switch.name.toList = name := of_decide_eq_true hname
        split
        · rename_i hvalue
          cases value with
          | none =>
              rw [Option.elim_none, List.append_nil]
              exact .bare (name_mem_spellings switch)
          | some value => exact .attached value hvalue (name_mem_spellings switch)
        · cases value with
          | none =>
              rw [Option.elim_none, List.append_nil]
              exact .bare (name_mem_spellings switch)
          | some value => exact .refused _ _

theorem means_shortMeaning (letter : Char) (rest : Text) :
    Means ('-' :: letter :: rest) (shortMeaning letter rest) := by
  have hname : "-l".toList ∈ Switch.logLevel.spellings := by decide
  rw [shortMeaning.eq_def]
  split
  · split
    · exact .bare hname
    · exact .attached _ rfl hname
    · rename_i hnil hsign
      refine .joined hnil ?_
      intro hhead
      obtain ⟨value, rfl⟩ := List.head?_eq_some_iff.mp hhead
      exact hsign value rfl
  · exact .help _ _
  · exact .version _
  · exact .refused _ _

/-- Every argument has the form that goes with its meaning. -/
theorem means_meaning (token : Text) : Means token (meaning token) := by
  rw [meaning.eq_def]
  split
  · exact .ending
  · rename_i s _
    rw [List.span_eq_takeWhile_dropWhile]
    have hparts : '-' :: '-' :: s =
        "--".toList ++ s.takeWhile (· != '=') ++ s.dropWhile (· != '=') := by
      rw [List.append_assoc, List.takeWhile_append_dropWhile]
      rfl
    split
    · rename_i name value heq
      obtain ⟨rfl, hdrop⟩ := Prod.mk.inj heq
      rw [hparts, hdrop]
      exact means_longMeaning _ (some value)
    · rename_i name rest hrest heq
      obtain ⟨rfl, rfl⟩ := Prod.mk.inj heq
      -- What stands behind the name would start with the sign of an attached value.
      have hnil : s.dropWhile (· != '=') = [] := by
        cases hdrop : s.dropWhile (· != '=') with
        | nil => rfl
        | cons c behind =>
            have hstop := List.head?_dropWhile_not (· != '=') s
            simp only [hdrop, List.head?_cons, bne_eq_false_iff_eq] at hstop
            exact absurd (by rw [hdrop, hstop]) (hrest behind)
      rw [hparts, hnil]
      exact means_longMeaning _ none
  · exact means_shortMeaning _ _
  · rename_i hend hlong hshort
    refine .plain ?_
    cases token with
    | nil => exact .inr (by simp)
    | cons c rest =>
        by_cases hc : c = '-'
        · cases rest with
          | nil => exact .inl (by rw [hc])
          | cons letter rest => exact absurd (by rw [hc]) (hshort letter rest)
        · exact .inr (by simp [hc])

theorem meaning_of_isPlain {token : Text} (h : IsPlain token) : meaning token = .plain := by
  obtain rfl | hhead := h
  · rfl
  · cases token with
    | nil => rfl
    | cons c rest =>
        have hc : c ≠ '-' := fun hc => hhead (congrArg some hc)
        rw [meaning.eq_def]
        simp [hc]

theorem meaning_spelling {switch : Switch} {name : Text} (h : name ∈ switch.spellings) :
    meaning name = .switch switch none := by
  cases switch with
  | logLevel =>
      obtain rfl | h := List.mem_cons.mp h
      · rfl
      · obtain rfl := List.mem_singleton.mp h
        rfl
  | config | check | multi | initConfig =>
      obtain rfl := List.mem_singleton.mp h
      rfl

theorem meaning_attached {switch : Switch} (hvalue : switch.valueName?.isSome = true)
    {name : Text} (h : name ∈ switch.spellings) (value : Text) :
    meaning (name ++ '=' :: value) = .switch switch (some value) := by
  cases switch with
  | logLevel =>
      obtain rfl | h := List.mem_cons.mp h
      · rfl
      · obtain rfl := List.mem_singleton.mp h
        rfl
  | config | initConfig =>
      obtain rfl := List.mem_singleton.mp h
      rfl
  | check | multi => cases hvalue

theorem meaning_level (verbosity : Log.Verbosity) :
    meaning ("-l".toList ++ verbosity.name.toList) =
      .switch .logLevel (some verbosity.name.toList) := by
  cases verbosity <;> rfl

end StagedMocks.Arguments
