import StagedMocks.Proofs.Arguments.Reading

/-!
A command line without its check switch. What has been read with the switch given and what has
been read without it go on alike, so the same arguments without the switch are accepted too, and
ask for an update instead of a check.
-/
namespace StagedMocks.Arguments

/-- The switch that asks for a check, as it is spelled. -/
def checkToken : Text := "--check".toList

/-- The switch has one spelling. -/
theorem eq_checkToken_of_meaning {token : Text} {value : Option Text}
    (h : meaning token = .switch .check value) : token = checkToken := by
  have hmeans := means_meaning token
  rw [h] at hmeans
  cases hmeans with
  | bare hname => exact List.mem_singleton.mp hname
  | attached _ hvalue _ => cases hvalue

namespace Reading

/-- What has been read, without the check switch. -/
def withoutCheck (reading : Reading) : Reading :=
  { reading with given := reading.given.filter (·.1 ≠ .check) }

theorem withoutCheck_files (reading : Reading) : reading.withoutCheck.files = reading.files := rfl

theorem isGiven_withoutCheck (reading : Reading) {switch : Switch} (h : switch ≠ .check) :
    reading.withoutCheck.isGiven switch = reading.isGiven switch := by
  simp only [isGiven, withoutCheck, List.any_filter]
  congr 1
  funext given
  by_cases hgiven : given.1 = switch
  · simp [hgiven, h]
  · simp [hgiven]

theorem value?_withoutCheck (reading : Reading) {switch : Switch} (h : switch ≠ .check) :
    reading.withoutCheck.value? switch = reading.value? switch := by
  simp only [value?, withoutCheck]
  induction reading.given with
  | nil => rfl
  | cons first rest ih =>
      obtain ⟨other, value⟩ := first
      by_cases hother : other = .check
      · have hne : (switch == other) = false := by simpa [hother] using h
        rw [List.filter_cons_of_neg (by simp [hother]), ih, List.lookup_cons, hne]
      · rw [List.filter_cons_of_pos (by simp [hother]), List.lookup_cons, List.lookup_cons, ih]

theorem not_isGiven_withoutCheck (reading : Reading) :
    reading.withoutCheck.isGiven .check = false := by
  simp [isGiven, withoutCheck]

/-- A step of reading that goes on alike with the check switch given and without it. -/
def Indifferent (step : Reading → Except Refusal Reading) : Prop :=
  ∀ reading next, reading.isGiven .check = true → step reading = .ok next →
    next.isGiven .check = true ∧ step reading.withoutCheck = .ok next.withoutCheck

theorem Indifferent.comp {first second : Reading → Except Refusal Reading}
    (h : Indifferent first) (h' : Indifferent second) :
    Indifferent fun reading => first reading >>= second := by
  intro reading next hgiven hnext
  obtain ⟨middle, hfirst, hsecond⟩ := bind_eq_ok hnext
  obtain ⟨hmiddle, hwithout⟩ := h reading middle hgiven hfirst
  dsimp only
  rw [hwithout]
  exact h' middle next hmiddle hsecond

/-- With the check switch given it is not given again, and no other switch asks for it. -/
theorem indifferent_give (switch : Switch) (value : Text) :
    Indifferent fun reading => reading.give switch value := by
  intro reading next hgiven hnext
  obtain ⟨hnew, hvalue, hlevel, rfl⟩ := give_eq_ok_iff.mp hnext
  have hswitch : switch ≠ .check := by
    rintro rfl
    rw [hgiven] at hnew
    cases hnew
  refine ⟨?_, give_eq_ok_iff.mpr ⟨?_, hvalue, hlevel, ?_⟩⟩
  · simp only [isGiven, List.any_append] at hgiven ⊢
    rw [hgiven, Bool.true_or]
  · rw [isGiven_withoutCheck reading hswitch, hnew]
  · simp [withoutCheck, hswitch]

theorem indifferent_settle : Indifferent settle := by
  intro ⟨given, files, pending⟩ next hgiven hnext
  match pending with
  | none =>
      cases hnext
      exact ⟨hgiven, rfl⟩
  | some (switch, none) => cases hnext
  | some (switch, some value) =>
      exact indifferent_give switch value ⟨given, files, none⟩ next hgiven hnext

theorem indifferent_takeSwitch (switch : Switch) (value : Option Text) :
    Indifferent fun reading => reading.takeSwitch switch value := by
  cases value with
  | some value => exact indifferent_settle.comp (indifferent_give switch value)
  | none =>
      refine indifferent_settle.comp ?_
      intro reading next hgiven hnext
      by_cases hvalue : switch.valueName?.isSome = true
      · simp only [if_pos hvalue] at hnext ⊢
        cases hnext
        exact ⟨hgiven, rfl⟩
      · simp only [if_neg hvalue] at hnext ⊢
        exact indifferent_give switch [] reading next hgiven hnext

theorem indifferent_takeFile (argument : Text) : Indifferent fun reading =>
    reading.settle >>= fun settled => .ok { settled with files := settled.files ++ [argument] } := by
  refine indifferent_settle.comp ?_
  intro reading next hgiven hnext
  cases hnext
  exact ⟨hgiven, rfl⟩

theorem indifferent_takePlain (argument : Text) :
    Indifferent fun reading => reading.takePlain argument := by
  intro ⟨given, files, pending⟩ next hgiven hnext
  match pending with
  | none => exact indifferent_takeFile argument ⟨given, files, none⟩ next hgiven hnext
  | some (switch, none) =>
      cases hnext
      exact ⟨hgiven, rfl⟩
  | some (switch, some value) =>
      exact indifferent_takeFile argument ⟨given, files, some (switch, some value)⟩ next hgiven
        hnext

theorem checkExclusions_withoutCheck {reading : Reading}
    (h : reading.checkExclusions = .ok ()) : reading.withoutCheck.checkExclusions = .ok () := by
  have hapart := checkExclusions_eq_ok_iff.mp h
  have hsub : ∀ switch ∈ reading.withoutCheck.given.map Prod.fst,
      switch ∈ reading.given.map Prod.fst := by
    intro switch hswitch
    exact (List.filter_sublist.map Prod.fst).subset hswitch
  apply checkExclusions_eq_ok_iff.mpr
  intro switch hswitch other hother
  exact hapart switch (hsub switch hswitch) other (hsub other hother)

theorem value?_initConfig {reading : Reading} (hgiven : reading.isGiven .check = true)
    (h : reading.checkExclusions = .ok ()) : reading.value? .initConfig = none := by
  cases hvalue : reading.value? .initConfig with
  | none => rfl
  | some path =>
      obtain ⟨before, behind, hsplit, _⟩ := List.lookup_eq_some_iff.mp hvalue
      obtain ⟨⟨switch, value⟩, hmem, hcheck⟩ := List.any_eq_true.mp hgiven
      obtain rfl : switch = .check := of_decide_eq_true hcheck
      have hinit : (.initConfig, path) ∈ reading.given := by simp [hsplit]
      have hexcludes := checkExclusions_eq_ok_iff.mp h .initConfig
        (List.mem_map_of_mem hinit) .check (List.mem_map_of_mem hmem)
      cases hexcludes

/-- With the check switch given the arguments ask for a check, and without it for an update. -/
theorem finish_withoutCheck {reading : Reading} {arguments : Arguments}
    (hgiven : reading.isGiven .check = true) (h : reading.finish = .ok arguments) :
    reading.withoutCheck.finish = .ok { arguments with command := .update } := by
  obtain ⟨settled, hsettle, h⟩ := bind_eq_ok h
  obtain ⟨_, hexclusions, h⟩ := bind_eq_ok h
  obtain ⟨hsettled, hwithout⟩ := indifferent_settle reading settled hgiven hsettle
  simp only [finish, hwithout, checkExclusions_withoutCheck hexclusions, bind, Except.bind]
  simp only [value?_withoutCheck settled (by decide : Switch.initConfig ≠ .check),
    value?_withoutCheck settled (by decide : Switch.logLevel ≠ .check),
    value?_withoutCheck settled (by decide : Switch.config ≠ .check),
    isGiven_withoutCheck settled (by decide : Switch.multi ≠ .check),
    not_isGiven_withoutCheck, withoutCheck_files, value?_initConfig hsettled hexclusions] at h ⊢
  split at h
  · cases h
  · rename_i hfiles
    cases h
    rw [if_neg hfiles]
    rfl

/-- Reading goes on with the rest after an indifferent step. -/
theorem Indifferent.readRest {step : Reading → Except Refusal Reading} (hstep : Indifferent step)
    {rest : List Text} {arguments : Arguments}
    (hrest : ∀ reading : Reading, reading.isGiven .check = true →
      reading.readRest rest = .ok (.run arguments) →
      reading.withoutCheck.readRest rest = .ok (.run { arguments with command := .update }))
    {reading : Reading} (hgiven : reading.isGiven .check = true)
    (h : (step reading >>= fun next => next.readRest rest) = .ok (.run arguments)) :
    (step reading.withoutCheck >>= fun next => next.readRest rest) =
      .ok (.run { arguments with command := .update }) := by
  obtain ⟨next, hnext, h⟩ := bind_eq_ok h
  obtain ⟨hgiven', hwithout⟩ := hstep reading next hgiven hnext
  rw [hwithout]
  exact hrest next hgiven' h

theorem run_finish_withoutCheck {reading : Reading} {arguments : Arguments}
    (hgiven : reading.isGiven .check = true)
    (h : (reading.finish >>= fun finished => .ok (Request.run finished)) = .ok (.run arguments)) :
    (reading.withoutCheck.finish >>= fun finished => Except.ok (Request.run finished)) =
      (.ok (.run { arguments with command := .update }) : Except Refusal Request) := by
  obtain ⟨finished, hfinish, h⟩ := bind_eq_ok h
  cases h
  rw [finish_withoutCheck hgiven hfinish]
  rfl

/-- What is read behind a check switch is read alike without it, but for the command. -/
theorem readRest_withoutCheck {tokens : List Text} {arguments : Arguments} (reading : Reading)
    (hgiven : reading.isGiven .check = true)
    (h : reading.readRest tokens = .ok (.run arguments)) :
    reading.withoutCheck.readRest tokens = .ok (.run { arguments with command := .update }) := by
  induction tokens generalizing reading with
  | nil => exact run_finish_withoutCheck hgiven h
  | cons token rest ih =>
      rw [readRest] at h ⊢
      cases hmeaning : meaning token with
      | endOfSwitches =>
          simp only [hmeaning] at h ⊢
          obtain ⟨settled, hsettle, h⟩ := bind_eq_ok h
          obtain ⟨hsettled, hwithout⟩ := indifferent_settle reading settled hgiven hsettle
          rw [hwithout]
          exact @run_finish_withoutCheck { settled with files := settled.files ++ rest } _
            hsettled h
      | switch switch value =>
          simp only [hmeaning] at h ⊢
          exact (indifferent_takeSwitch switch value).readRest ih hgiven h
      | plain =>
          simp only [hmeaning] at h ⊢
          exact (indifferent_takePlain token).readRest ih hgiven h
      | help isLong | version =>
          simp only [hmeaning] at h
          obtain ⟨_, _, h⟩ := bind_eq_ok h
          cases h
      | refused refusal =>
          simp only [hmeaning] at h
          cases h

/-- The check switch is neither given nor waits for a value. -/
structure Unchecked (reading : Reading) : Prop where
  isGiven_eq : reading.isGiven .check = false
  pending_ne : ∀ value, reading.pending ≠ some (.check, value)

theorem Unchecked.give {reading next : Reading} (h : reading.Unchecked) {switch : Switch}
    (hswitch : switch ≠ .check) {value : Text} (hnext : reading.give switch value = .ok next) :
    next.Unchecked := by
  obtain ⟨_, _, _, rfl⟩ := give_eq_ok_iff.mp hnext
  refine ⟨?_, h.pending_ne⟩
  have hgiven := h.isGiven_eq
  simp only [isGiven] at hgiven ⊢
  simp [List.any_append, hgiven, hswitch]

theorem Unchecked.settle {reading settled : Reading} (h : reading.Unchecked)
    (hsettle : reading.settle = .ok settled) : settled.Unchecked := by
  obtain ⟨given, files, pending⟩ := reading
  match pending with
  | none =>
      cases hsettle
      exact h
  | some (switch, none) => cases hsettle
  | some (switch, some value) =>
      have hunchecked : Unchecked ⟨given, files, none⟩ := ⟨h.isGiven_eq, fun _ hnone => nomatch hnone⟩
      refine hunchecked.give ?_ hsettle
      rintro rfl
      exact h.pending_ne (some value) rfl

theorem Unchecked.takeSwitch {reading next : Reading} (h : reading.Unchecked) {switch : Switch}
    (hswitch : switch ≠ .check) {value : Option Text}
    (hnext : reading.takeSwitch switch value = .ok next) : next.Unchecked := by
  obtain ⟨settled, hsettle, hnext⟩ := bind_eq_ok hnext
  have hsettled := h.settle hsettle
  cases value with
  | some value => exact hsettled.give hswitch hnext
  | none =>
      dsimp only at hnext
      split at hnext
      · cases hnext
        refine ⟨hsettled.isGiven_eq, fun value hpending => ?_⟩
        exact hswitch (Prod.mk.inj (Option.some.inj hpending)).1
      · exact hsettled.give hswitch hnext

theorem Unchecked.takeFile {reading next : Reading} (h : reading.Unchecked) {argument : Text}
    (hnext : (reading.settle >>= fun settled =>
      Except.ok { settled with files := settled.files ++ [argument] }) = .ok next) :
    next.Unchecked := by
  obtain ⟨settled, hsettle, hnext⟩ := bind_eq_ok hnext
  have hsettled := h.settle hsettle
  cases hnext
  exact ⟨hsettled.isGiven_eq, hsettled.pending_ne⟩

theorem Unchecked.takePlain {reading next : Reading} (h : reading.Unchecked) {argument : Text}
    (hnext : reading.takePlain argument = .ok next) : next.Unchecked := by
  obtain ⟨given, files, pending⟩ := reading
  match pending with
  | none => exact h.takeFile hnext
  | some (switch, none) =>
      cases hnext
      refine ⟨h.isGiven_eq, fun value hpending => ?_⟩
      have hswitch := (Prod.mk.inj (Option.some.inj hpending)).1
      exact h.pending_ne none (by rw [hswitch])
  | some (switch, some value) => exact h.takeFile hnext

theorem Unchecked.finish {reading : Reading} (h : reading.Unchecked) {arguments : Arguments}
    (hfinish : reading.finish = .ok arguments) : arguments.command ≠ .check := by
  obtain ⟨settled, hsettle, hfinish⟩ := bind_eq_ok hfinish
  obtain ⟨_, _, hfinish⟩ := bind_eq_ok hfinish
  have hgiven := (h.settle hsettle).isGiven_eq
  split at hfinish
  · cases hfinish
    simp
  · split at hfinish
    · cases hfinish
    · cases hfinish
      simp [hgiven]

/-- Taking the check switch and leaving it out again is settling what was pending. -/
theorem takeSwitch_check {reading next : Reading}
    (hnext : reading.takeSwitch .check none = .ok next) :
    next.isGiven .check = true ∧ reading.settle = .ok next.withoutCheck := by
  obtain ⟨settled, hsettle, hnext⟩ := bind_eq_ok hnext
  obtain ⟨hnew, _, _, rfl⟩ := give_eq_ok_iff.mp hnext
  refine ⟨by simp [isGiven], ?_⟩
  have hgiven : settled.given.filter (·.1 ≠ .check) = settled.given := by
    apply List.filter_eq_self.mpr
    intro given hmem
    simpa using List.any_eq_false.mp hnew given hmem
  rw [hsettle, withoutCheck, List.filter_append, hgiven]
  simp

/-- Arguments that ask for a check are accepted without the switch, and ask for an update. -/
theorem readRest_erase {tokens : List Text} {arguments : Arguments} (reading : Reading)
    (hunchecked : reading.Unchecked) (h : reading.readRest tokens = .ok (.run arguments))
    (hcommand : arguments.command = .check) :
    reading.readRest (tokens.erase checkToken) =
      .ok (.run { arguments with command := .update }) := by
  induction tokens generalizing reading with
  | nil =>
      obtain ⟨finished, hfinish, h⟩ := bind_eq_ok h
      cases h
      exact absurd hcommand (hunchecked.finish hfinish)
  | cons token rest ih =>
      by_cases htoken : token = checkToken
      · subst htoken
        have hmeaning : meaning checkToken = .switch .check none := rfl
        rw [readRest, hmeaning] at h
        obtain ⟨next, hnext, h⟩ := bind_eq_ok h
        obtain ⟨hgiven, hsettle⟩ := takeSwitch_check hnext
        rw [List.erase_cons_head, readRest_of_settle hsettle]
        exact readRest_withoutCheck next hgiven h
      · rw [List.erase_cons_tail (by simpa using htoken), readRest]
        rw [readRest] at h
        cases hmeaning : meaning token with
        | endOfSwitches =>
            -- Behind the end of the switches there are files only.
            simp only [hmeaning] at h
            obtain ⟨settled, hsettle, h⟩ := bind_eq_ok h
            obtain ⟨finished, hfinish, h⟩ := bind_eq_ok h
            cases h
            have hsettled := hunchecked.settle hsettle
            have hfiles : Unchecked { settled with files := settled.files ++ rest } :=
              ⟨hsettled.isGiven_eq, hsettled.pending_ne⟩
            exact absurd hcommand (hfiles.finish hfinish)
        | switch switch value =>
            have hswitch : switch ≠ .check := by
              rintro rfl
              exact htoken (eq_checkToken_of_meaning hmeaning)
            simp only [hmeaning] at h ⊢
            obtain ⟨next, hnext, h⟩ := bind_eq_ok h
            rw [hnext]
            exact ih next (hunchecked.takeSwitch hswitch hnext) h
        | plain =>
            simp only [hmeaning] at h ⊢
            obtain ⟨next, hnext, h⟩ := bind_eq_ok h
            rw [hnext]
            exact ih next (hunchecked.takePlain hnext) h
        | help isLong | version =>
            simp only [hmeaning] at h
            obtain ⟨_, _, h⟩ := bind_eq_ok h
            cases h
        | refused refusal =>
            simp only [hmeaning] at h
            cases h

end Reading

theorem read_erase_check {program : Text} {tokens : List Text} {arguments : Arguments}
    (h : read (program :: tokens) = .ok (.run arguments)) (hcommand : arguments.command = .check) :
    read (program :: tokens.erase checkToken) =
      .ok (.run { arguments with command := .update }) :=
  Reading.readRest_erase Reading.start ⟨rfl, fun _ hpending => nomatch hpending⟩ h hcommand

end StagedMocks.Arguments
