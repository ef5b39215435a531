import StagedMocks.Proofs.Arguments.Options

/-!
The command lines that ask for a run, as a grammar. Files and options stand in any order, each
option in one of its spellings, and what stands behind the end of the switches is files. Reading
takes one spelling or one file at a time, so what has been read are exactly the options and the
files of such a line; it is accepted if they are those of a run, and nothing is said twice.
-/
namespace StagedMocks.Arguments

/-- The ways to spell an option in one or two arguments. -/
inductive Choice.Spelled : Choice → List Text → Prop where
  | flag {choice : Choice} {name : Text} :
      name ∈ choice.switch.spellings → choice.value? = none → Spelled choice [name]
  | separate {choice : Choice} {name value : Text} :
      name ∈ choice.switch.spellings → choice.value? = some value → IsPlain value →
      Spelled choice [name, value]
  | attached {choice : Choice} {name value : Text} :
      name ∈ choice.switch.spellings → choice.value? = some value →
      Spelled choice [name ++ '=' :: value]
  | joined (verbosity : Log.Verbosity) :
      Spelled (.level verbosity) ["-l".toList ++ verbosity.name.toList]

/-- Options and files among each other, both in the order of the command line. -/
inductive Interleaved : List Choice → List Text → List Text → Prop where
  | nil : Interleaved [] [] []
  | ending (files : List Text) : Interleaved [] files (endToken :: files)
  | file {file : Text} {choices : List Choice} {files tokens : List Text} :
      IsPlain file → Interleaved choices files tokens →
      Interleaved choices (file :: files) (file :: tokens)
  | option {choice : Choice} {choices : List Choice} {files spelling tokens : List Text} :
      choice.Spelled spelling → Interleaved choices files tokens →
      Interleaved (choice :: choices) files (spelling ++ tokens)

/-- The arguments of a run, written in any order. Files can stand beside the path of a settings
file to make, but go unused. -/
inductive Written : Arguments → List Text → Prop where
  | ofFiles {arguments : Arguments} {choices : List Choice} {tokens : List Text} :
      arguments.command ≠ .initialise → arguments.filenames ≠ [] →
      choices.Perm arguments.options → Interleaved choices arguments.filenames tokens →
      Written arguments tokens
  | ofPath {path : Text} {verbosity : Option Log.Verbosity} {choices : List Choice}
      {files tokens : List Text} :
      choices.Perm (pathOptions path verbosity) →
      Interleaved choices files tokens →
      Written ⟨.initialise, [path], none, verbosity, false⟩ tokens

namespace Reading

/-- What has been read, with one more option. -/
def add (reading : Reading) (choice : Choice) : Reading :=
  { reading with given := reading.given ++ [choice.entry] }

theorem give_choice {reading : Reading} {choice : Choice}
    (hnew : reading.isGiven choice.switch = false) :
    reading.give choice.switch (choice.value?.getD []) = .ok (reading.add choice) := by
  rw [give_eq_ok_iff]
  refine ⟨hnew, ?_, ?_, rfl⟩
  · intro ⟨hswitch, hempty⟩
    cases choice with
    | level verbosity => cases verbosity <;> cases hempty
    | check | multi | config path | initialise path => cases hswitch
  · intro ⟨hswitch, hlevel⟩
    cases choice with
    | level verbosity =>
        rw [Choice.value?, Option.getD_some, ofName?_eq_some_iff.mpr rfl] at hlevel
        cases hlevel
    | check | multi | config path | initialise path => cases hswitch

/-- A switch that counts as given is an option, if it has a value exactly when it takes one. -/
theorem exists_choice_of_give {reading next : Reading} {switch : Switch} {value : Option Text}
    (hvalue : value.isSome = switch.valueName?.isSome)
    (h : reading.give switch (value.getD []) = .ok next) :
    ∃ choice : Choice, choice.switch = switch ∧ choice.value? = value ∧
      reading.isGiven choice.switch = false ∧ next = reading.add choice := by
  obtain ⟨hnew, _, hlevel, rfl⟩ := give_eq_ok_iff.mp h
  cases value with
  | none =>
      cases switch with
      | check => exact ⟨.check, rfl, rfl, hnew, rfl⟩
      | multi => exact ⟨.multi, rfl, rfl, hnew, rfl⟩
      | logLevel | config | initConfig => cases hvalue
  | some value =>
      cases switch with
      | check | multi => cases hvalue
      | config => exact ⟨.config value, rfl, rfl, hnew, rfl⟩
      | initConfig => exact ⟨.initialise value, rfl, rfl, hnew, rfl⟩
      | logLevel =>
          cases hname : Log.Verbosity.ofName? value with
          | none => exact absurd ⟨rfl, by rw [Option.getD_some, hname]; rfl⟩ hlevel
          | some verbosity =>
              obtain rfl := ofName?_eq_some_iff.mp hname
              exact ⟨.level verbosity, rfl, rfl, hnew, rfl⟩

/-- What has been read, with more options and files. -/
def after (reading : Reading) (choices : List Choice) (files : List Text) : Reading :=
  ⟨reading.given ++ choices.map Choice.entry, reading.files ++ files, none⟩

theorem after_add (reading : Reading) (choice : Choice) (choices : List Choice)
    (files : List Text) :
    (reading.add choice).after choices files = reading.after (choice :: choices) files := by
  simp [after, add]

theorem after_file (reading : Reading) (file : Text) (choices : List Choice)
    (files : List Text) :
    { reading with files := reading.files ++ [file] }.after choices files =
      reading.after choices (file :: files) := by
  simp [after]

theorem settle_of_pending {reading : Reading} (h : reading.pending = none) :
    reading.settle = .ok reading := by
  rw [settle, h]

theorem readRest_ending {reading : Reading} (hpending : reading.pending = none)
    (files : List Text) :
    reading.readRest (endToken :: files) =
      (reading.after [] files).finish >>= fun arguments => .ok (.run arguments) := by
  have hmeaning : meaning endToken = .endOfSwitches := rfl
  obtain ⟨given, earlier, pending⟩ := reading
  subst hpending
  rw [readRest, hmeaning, after, List.map_nil, List.append_nil]
  rfl

theorem readRest_file {reading : Reading} (hpending : reading.pending = none) {file : Text}
    (h : IsPlain file) (tokens : List Text) :
    reading.readRest (file :: tokens) =
      { reading with files := reading.files ++ [file] }.readRest tokens := by
  obtain ⟨given, files, pending⟩ := reading
  subst hpending
  rw [readRest, meaning_of_isPlain h]
  rfl

/-- A switch with all it needs counts as given at once. -/
theorem readRest_given {reading : Reading} (hpending : reading.pending = none) {token : Text}
    {switch : Switch} {value : Option Text} (hmeaning : meaning token = .switch switch value)
    (hvalue : value.isSome = switch.valueName?.isSome) (tokens : List Text) :
    reading.readRest (token :: tokens) =
      reading.give switch (value.getD []) >>= fun next => next.readRest tokens := by
  rw [readRest, hmeaning]
  simp only [takeSwitch, settle_of_pending hpending]
  cases value with
  | none =>
      have hno : ¬ switch.valueName?.isSome = true := by simp [← hvalue]
      simp only [if_neg hno]
      rfl
  | some value => rfl

/-- A switch that needs a value waits for it. -/
theorem readRest_waiting {reading : Reading} (hpending : reading.pending = none) {name : Text}
    {switch : Switch} (hname : name ∈ switch.spellings)
    (hvalue : switch.valueName?.isSome = true) (tokens : List Text) :
    reading.readRest (name :: tokens) =
      { reading with pending := some (switch, none) }.readRest tokens := by
  rw [readRest, meaning_spelling hname]
  simp only [takeSwitch, settle_of_pending hpending, bind, Except.bind, if_pos hvalue]
  rfl

theorem settle_value {reading : Reading} (hpending : reading.pending = none) (switch : Switch)
    (value : Text) :
    { reading with pending := some (switch, some value) }.settle = reading.give switch value := by
  obtain ⟨given, files, pending⟩ := reading
  subst hpending
  rfl

/-- A spelled option counts as given. -/
theorem readRest_spelled {choice : Choice} {spelling : List Text} (h : choice.Spelled spelling)
    {reading : Reading} (hpending : reading.pending = none)
    (hnew : reading.isGiven choice.switch = false) (tokens : List Text) :
    reading.readRest (spelling ++ tokens) = (reading.add choice).readRest tokens := by
  have hgive := give_choice hnew
  have htakes : choice.value?.isSome = choice.switch.valueName?.isSome := by
    cases choice <;> rfl
  cases h with
  | flag hname hvalue =>
      rw [hvalue] at hgive htakes
      rw [List.singleton_append, readRest_given hpending (meaning_spelling hname) htakes, hgive]
      rfl
  | @separate _ name value hname hvalue hplain =>
      rw [hvalue] at hgive htakes
      have hsettle := (settle_value hpending choice.switch value).trans hgive
      rw [List.cons_append, readRest_waiting hpending hname htakes.symm, List.singleton_append,
        readRest, meaning_of_isPlain hplain]
      exact readRest_of_settle hsettle tokens
  | attached hname hvalue =>
      rw [hvalue] at hgive htakes
      rw [List.singleton_append,
        readRest_given hpending (meaning_attached htakes.symm hname _) htakes, hgive]
      rfl
  | joined verbosity =>
      rw [List.singleton_append, readRest_given hpending (meaning_level verbosity) htakes]
      exact congrArg (· >>= fun next => next.readRest tokens) hgive

/-- The arguments of a mixed line are finished from its options and its files. -/
theorem readRest_of_interleaved {choices : List Choice} {files tokens : List Text}
    (h : Interleaved choices files tokens) {reading : Reading}
    (hpending : reading.pending = none)
    (honce : ((reading.after choices files).given.map Prod.fst).Nodup) :
    reading.readRest tokens =
      (reading.after choices files).finish >>= fun arguments => .ok (.run arguments) := by
  induction h generalizing reading with
  | nil =>
      obtain ⟨given, earlier, pending⟩ := reading
      subst hpending
      simp only [after, List.map_nil, List.append_nil]
      rfl
  | ending files => exact readRest_ending hpending files
  | @file file choices files tokens hplain _ ih =>
      rw [readRest_file hpending hplain, ← after_file]
      exact ih hpending (after_file reading file choices files ▸ honce)
  | @option choice choices files spelling tokens hspelled _ ih =>
      have hnew : reading.isGiven choice.switch = false := by
        rw [isGiven_eq_false_iff]
        simp only [after, List.map_append, List.map_cons] at honce
        exact fun hmem => (List.nodup_append.mp honce).2.2 _ hmem _ List.mem_cons_self rfl
      rw [readRest_spelled hspelled hpending hnew, ← after_add]
      exact ih hpending (after_add reading choice choices files ▸ honce)

theorem settle_of_readRest {reading : Reading} {switch : Switch} {value : Text}
    (hpending : reading.pending = some (switch, some value)) {tokens : List Text}
    {request : Request} (h : reading.readRest tokens = .ok request) :
    ∃ settled, reading.settle = .ok settled := by
  cases tokens with
  | nil =>
      obtain ⟨_, hfinish, _⟩ := bind_eq_ok h
      obtain ⟨settled, hsettle, _⟩ := bind_eq_ok hfinish
      exact ⟨settled, hsettle⟩
  | cons token rest =>
      rw [readRest] at h
      cases hmeaning : meaning token with
      | endOfSwitches | help isLong | version =>
          simp only [hmeaning] at h
          obtain ⟨settled, hsettle, _⟩ := bind_eq_ok h
          exact ⟨settled, hsettle⟩
      | switch switch value =>
          simp only [hmeaning] at h
          obtain ⟨_, htake, _⟩ := bind_eq_ok h
          obtain ⟨settled, hsettle, _⟩ := bind_eq_ok htake
          exact ⟨settled, hsettle⟩
      | refused refusal =>
          simp only [hmeaning] at h
          cases h
      | plain =>
          simp only [hmeaning, takePlain, hpending] at h
          obtain ⟨_, htake, _⟩ := bind_eq_ok h
          obtain ⟨settled, hsettle, _⟩ := bind_eq_ok htake
          exact ⟨settled, hsettle⟩

/-- A switch that waits gets its value from the next argument. -/
theorem exists_value_of_readRest {reading : Reading} {switch : Switch} {tokens : List Text}
    {request : Request}
    (h : { reading with pending := some (switch, none) }.readRest tokens = .ok request) :
    ∃ value rest, tokens = value :: rest ∧ IsPlain value ∧
      { reading with pending := some (switch, some value) }.readRest rest = .ok request := by
  cases tokens with
  | nil => cases h
  | cons token rest =>
      have hmeans := means_meaning token
      rw [readRest] at h
      cases hmeaning : meaning token with
      | plain =>
          rw [hmeaning] at hmeans h
          cases hmeans with
          | plain hplain => exact ⟨token, rest, rfl, hplain, h⟩
      | endOfSwitches | help isLong | version | refused refusal | switch other value =>
          rw [hmeaning] at h
          cases h

/-- A switch that is read to the end is a spelled option, with the next argument if it waits. -/
theorem exists_spelled_of_readRest {reading : Reading} (hpending : reading.pending = none)
    {token : Text} {switch : Switch} {value : Option Text}
    (hmeaning : meaning token = .switch switch value) {rest : List Text} {request : Request}
    (h : reading.readRest (token :: rest) = .ok request) :
    ∃ choice : Choice, ∃ spelling tokens, choice.Spelled spelling ∧
      token :: rest = spelling ++ tokens ∧ reading.isGiven choice.switch = false ∧
      (reading.add choice).readRest tokens = .ok request := by
  have hmeans := means_meaning token
  rw [hmeaning] at hmeans
  by_cases hvalue : value.isSome = switch.valueName?.isSome
  · rw [readRest_given hpending hmeaning hvalue] at h
    obtain ⟨next, hgive, h⟩ := bind_eq_ok h
    obtain ⟨choice, hswitch, hchoice, hnew, rfl⟩ := exists_choice_of_give hvalue hgive
    refine ⟨choice, [token], rest, ?_, rfl, hnew, h⟩
    cases hmeans with
    | bare hname => exact .flag (hswitch ▸ hname) hchoice
    | attached value _ hname => exact .attached (hswitch ▸ hname) hchoice
    | joined _ _ =>
        cases choice with
        | level verbosity =>
            cases hchoice
            exact .joined verbosity
        | check | multi | config path | initialise path => cases hswitch
  · cases hmeans with
    | bare hname =>
        have htakes : switch.valueName?.isSome = true := by
          cases hno : switch.valueName?.isSome with
          | true => rfl
          | false => exact absurd hno.symm hvalue
        rw [readRest_waiting hpending hname htakes] at h
        obtain ⟨value, tokens, rfl, hplain, h⟩ := exists_value_of_readRest h
        obtain ⟨settled, hsettle⟩ := settle_of_readRest rfl h
        rw [readRest_of_settle hsettle] at h
        rw [settle_value hpending] at hsettle
        obtain ⟨choice, rfl, hchoice, hnew, rfl⟩ :=
          @exists_choice_of_give _ _ _ (some value) htakes.symm hsettle
        exact ⟨choice, [token, value], tokens, .separate hname hchoice hplain, rfl, hnew, h⟩
    | attached value htakes _ => exact absurd htakes.symm hvalue
    | joined _ _ => exact absurd rfl hvalue

/-- What a run's command line begins with, when nothing waits for a value. -/
theorem readRest_cases {reading : Reading} (hpending : reading.pending = none) {token : Text}
    {rest : List Text} {arguments : Arguments}
    (h : reading.readRest (token :: rest) = .ok (.run arguments)) :
    (token = endToken ∧ (reading.after [] rest).finish = .ok arguments) ∨
    (IsPlain token ∧ { reading with files := reading.files ++ [token] }.readRest rest =
      .ok (.run arguments)) ∨
    ∃ choice : Choice, ∃ spelling tokens, choice.Spelled spelling ∧
      token :: rest = spelling ++ tokens ∧ reading.isGiven choice.switch = false ∧
      (reading.add choice).readRest tokens = .ok (.run arguments) := by
  have hmeans := means_meaning token
  cases hmeaning : meaning token with
  | endOfSwitches =>
      rw [hmeaning] at hmeans
      cases hmeans with
      | ending =>
          rw [readRest_ending hpending] at h
          obtain ⟨finished, hfinish, h⟩ := bind_eq_ok h
          cases h
          exact .inl ⟨rfl, hfinish⟩
  | plain =>
      rw [hmeaning] at hmeans
      cases hmeans with
      | plain hplain =>
          rw [readRest_file hpending hplain] at h
          exact .inr (.inl ⟨hplain, h⟩)
  | switch switch value => exact .inr (.inr (exists_spelled_of_readRest hpending hmeaning h))
  | help isLong | version =>
      simp only [readRest, hmeaning] at h
      obtain ⟨_, _, h⟩ := bind_eq_ok h
      cases h
  | refused refusal =>
      simp only [readRest, hmeaning] at h
      cases h

/-- A command line that asks for a run is mixed of options and files that are read in turn. -/
theorem exists_interleaved {tokens : List Text} {reading : Reading} {arguments : Arguments}
    (hpending : reading.pending = none) (honce : (reading.given.map Prod.fst).Nodup)
    (h : reading.readRest tokens = .ok (.run arguments)) :
    ∃ choices files, Interleaved choices files tokens ∧
      ((reading.after choices files).given.map Prod.fst).Nodup ∧
      (reading.after choices files).finish = .ok arguments := by
  match tokens with
  | [] =>
      obtain ⟨finished, hfinish, h⟩ := bind_eq_ok h
      cases h
      have hafter : reading.after [] [] = reading := by
        obtain ⟨given, files, pending⟩ := reading
        subst hpending
        simp [after]
      refine ⟨[], [], .nil, ?_, ?_⟩
      · rw [hafter]
        exact honce
      · rw [hafter]
        exact hfinish
  | token :: rest =>
      obtain ⟨rfl, hfinish⟩ | ⟨hplain, h⟩ | ⟨choice, spelling, tokens, hspelled, hsplit, hnew, h⟩ :=
        readRest_cases hpending h
      · refine ⟨[], rest, .ending rest, ?_, hfinish⟩
        simpa [after] using honce
      · obtain ⟨choices, files, hmixed, hnodup, hfinish⟩ := @exists_interleaved rest
          { reading with files := reading.files ++ [token] } arguments hpending honce h
        rw [after_file] at hnodup hfinish
        exact ⟨choices, token :: files, .file hplain hmixed, hnodup, hfinish⟩
      · have hadded : ((reading.add choice).given.map Prod.fst).Nodup := by
          rw [isGiven_eq_false_iff] at hnew
          rw [add, List.map_append, List.nodup_append]
          refine ⟨honce, by simp, ?_⟩
          intro switch hmem other hother heq
          rw [heq, List.mem_singleton.mp hother] at hmem
          exact hnew hmem
        have hshort : tokens.length < (token :: rest).length := by
          have hne : spelling ≠ [] := by cases hspelled <;> simp
          have hpos := List.length_pos_iff.mpr hne
          rw [hsplit, List.length_append]
          omega
        obtain ⟨choices, files, hmixed, hnodup, hfinish⟩ :=
          @exists_interleaved tokens (reading.add choice) arguments hpending hadded h
        rw [after_add] at hnodup hfinish
        rw [hsplit]
        exact ⟨choice :: choices, files, .option hspelled hmixed, hnodup, hfinish⟩
termination_by tokens.length
decreasing_by
  · exact Nat.lt_succ_self rest.length
  · exact hshort

end Reading

theorem written_of_finish {choices : List Choice} {files tokens : List Text}
    {arguments : Arguments} (hmixed : Interleaved choices files tokens)
    (honce : (choices.map Choice.switch).Nodup)
    (h : (collected choices files).finish = .ok arguments) : Written arguments tokens := by
  obtain ⟨_, hsettle, hfinish⟩ := bind_eq_ok h
  cases hsettle
  obtain ⟨_, hexclusions, _⟩ := bind_eq_ok hfinish
  rw [finish_collected hexclusions] at h
  cases hinit : (collected choices files).value? .initConfig with
  | some path =>
      rw [hinit] at h
      cases h
      have hpath : Choice.initialise path ∈ choices :=
        (value?_collected_iff honce (.initialise path)).mp hinit
      rw [checkExclusions_collected_iff] at hexclusions
      exact .ofPath (perm_collectedPath honce hinit (hexclusions path hpath)) hmixed
  | none =>
      rw [hinit] at h
      dsimp only at h
      split at h
      · cases h
      · rename_i hfiles
        cases h
        exact .ofFiles collectedRun_command (fun hnil => hfiles (List.isEmpty_iff.mpr hnil))
          (perm_collectedRun honce hinit) hmixed

/-- Reading asks for a run exactly if the command line writes its arguments. -/
theorem read_run_iff (program : Text) (tokens : List Text) (arguments : Arguments) :
    read (program :: tokens) = .ok (.run arguments) ↔ Written arguments tokens := by
  constructor
  · intro h
    obtain ⟨choices, files, hmixed, honce, hfinish⟩ :=
      @Reading.exists_interleaved tokens Reading.start arguments rfl List.nodup_nil h
    exact written_of_finish hmixed (switches_collected ▸ honce) hfinish
  · intro h
    have hread : ∀ choices files, Interleaved choices files tokens →
        (choices.map Choice.switch).Nodup →
        (collected choices files).finish = .ok arguments →
        read (program :: tokens) = .ok (.run arguments) := by
      intro choices files hmixed honce hfinish
      rw [← @switches_collected _ files] at honce
      have hread := @Reading.readRest_of_interleaved _ _ _ hmixed Reading.start rfl honce
      have hafter : Reading.start.after choices files = collected choices files := rfl
      rw [hafter, hfinish] at hread
      exact hread
    cases h with
    | ofFiles hcommand hfiles hperm hmixed =>
        have honce := (hperm.map Choice.switch).nodup_iff.mpr (options_once _)
        exact hread _ _ hmixed honce (finish_of_files hcommand hfiles honce hperm)
    | ofPath hperm hmixed =>
        have honce := (hperm.map Choice.switch).nodup_iff.mpr (pathOptions_once _ _)
        exact hread _ _ hmixed honce (finish_of_path honce hperm)

/-- Files on both sides of the end of the switches, which makes a file of a switch's name. -/
example :
    read ["mockmigrate".toList, "-lwarn".toList, "-".toList, "--config".toList, "-".toList,
        "--multi".toList, "--".toList, "--check".toList] =
      .ok (.run ⟨.update, ["-".toList, "--check".toList], some "-".toList, some .warn, true⟩) := by
  rfl

end StagedMocks.Arguments
