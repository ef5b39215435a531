import StagedMocks.Proofs.Arguments.Spelling
import StagedMocks.Proofs.Fault

/-!
What one step of reading does. A switch is given once and with a value it can have; one that
waits for nothing more counts as given now or with the next argument, and what is read behind
it is the same either way.
-/
namespace StagedMocks.Arguments.Reading

/-- A switch is given only once, a log level only by its name, and then it is added. -/
theorem give_eq_ok_iff {reading next : Reading} {switch : Switch} {value : Text} :
    reading.give switch value = .ok next ↔
      reading.isGiven switch = false ∧ ¬ (switch = .logLevel ∧ value.isEmpty = true) ∧
      ¬ (switch = .logLevel ∧ (Log.Verbosity.ofName? value).isNone = true) ∧
      next = { reading with given := reading.given ++ [(switch, value)] } := by
  rw [give]
  by_cases hgiven : reading.isGiven switch = true
  · simp [hgiven]
  · by_cases hvalue : switch = .logLevel ∧ value.isEmpty = true
    · rw [if_neg hgiven, if_pos hvalue]
      exact ⟨fun h => (nomatch h), fun h => absurd hvalue h.2.1⟩
    · by_cases hlevel : switch = .logLevel ∧ (Log.Verbosity.ofName? value).isNone = true
      · rw [if_neg hgiven, if_neg hvalue, if_pos hlevel]
        exact ⟨fun h => (nomatch h), fun h => absurd hlevel h.2.2.1⟩
      · rw [if_neg hgiven, if_neg hvalue, if_neg hlevel]
        refine ⟨fun h => ?_, fun h => by rw [h.2.2.2]⟩
        cases h
        exact ⟨Bool.eq_false_iff.mpr hgiven, hvalue, hlevel, rfl⟩

theorem isGiven_eq_false_iff {reading : Reading} {switch : Switch} :
    reading.isGiven switch = false ↔ switch ∉ reading.given.map Prod.fst := by
  simp only [isGiven, List.any_eq_false, List.mem_map, decide_eq_true_eq]
  exact ⟨fun h ⟨given, hmem, heq⟩ => h given hmem heq, fun h given hmem heq => h ⟨given, hmem, heq⟩⟩

theorem value?_eq_some_iff {reading : Reading} (honce : (reading.given.map Prod.fst).Nodup)
    {switch : Switch} {value : Text} :
    reading.value? switch = some value ↔ (switch, value) ∈ reading.given := by
  obtain ⟨given, files, pending⟩ := reading
  simp only [value?] at honce ⊢
  induction given with
  | nil => simp
  | cons first given ih =>
      obtain ⟨other, value'⟩ := first
      rw [List.map_cons, List.nodup_cons] at honce
      rw [List.lookup_cons, List.mem_cons]
      by_cases hother : switch = other
      · subst hother
        have hnot : (switch, value) ∉ given := fun hmem =>
          honce.1 (List.mem_map.mpr ⟨_, hmem, rfl⟩)
        simp [hnot, eq_comm]
      · have hne : (switch == other) = false := by simpa using hother
        simp [hne, hother, ih honce.2]

theorem settle_pending {reading settled : Reading} (h : reading.settle = .ok settled) :
    settled.pending = none := by
  obtain ⟨given, files, pending⟩ := reading
  match pending with
  | none =>
      cases h
      rfl
  | some (switch, none) => cases h
  | some (switch, some value) =>
      obtain ⟨_, _, _, rfl⟩ := give_eq_ok_iff.mp h
      rfl

theorem settle_settled {reading settled : Reading} (h : reading.settle = .ok settled) :
    settled.settle = .ok settled := by
  rw [settle, settle_pending h]

theorem checkExclusions_eq_ok_iff {reading : Reading} :
    reading.checkExclusions = .ok () ↔
      ∀ switch ∈ reading.given.map Prod.fst, ∀ other ∈ reading.given.map Prod.fst,
        switch.excludes other = false := by
  rw [checkExclusions]
  generalize reading.given.map (fun given => given.1) = switches
  cases hfind : switches.find? fun switch => switches.any switch.excludes with
  | none => simpa using hfind
  | some switch =>
      have hany : switches.any switch.excludes = true := by
        simpa using List.find?_some hfind
      obtain ⟨other, hother, hexcludes⟩ := List.any_eq_true.mp hany
      constructor
      · intro h
        cases h
      · intro h
        rw [h switch (List.mem_of_find?_eq_some hfind) other hother] at hexcludes
        cases hexcludes

theorem takePlain_of_settle {reading settled : Reading} (h : reading.settle = .ok settled)
    (argument : Text) : reading.takePlain argument = settled.takePlain argument := by
  have hfile : settled.takePlain argument = settled.settle >>= fun settled =>
      Except.ok { settled with files := settled.files ++ [argument] } := by
    rw [takePlain, settle_pending h]
    rfl
  rw [hfile, settle_settled h]
  obtain ⟨given, files, pending⟩ := reading
  match pending with
  | none =>
      cases h
      rfl
  | some (switch, none) => cases h
  | some (switch, some value) =>
      rw [takePlain, h]
      rfl

/-- A switch that has its value counts as given now or with the next argument. -/
theorem readRest_of_settle {reading settled : Reading} (h : reading.settle = .ok settled)
    (tokens : List Text) : reading.readRest tokens = settled.readRest tokens := by
  have hsettled := settle_settled h
  cases tokens with
  | nil => simp only [readRest, finish, h, hsettled]
  | cons token rest =>
      simp only [readRest]
      cases meaning token with
      | endOfSwitches | help isLong | version => simp only [h, hsettled]
      | switch switch value => simp only [takeSwitch, h, hsettled]
      | refused refusal => rfl
      | plain => simp only [takePlain_of_settle h]

end StagedMocks.Arguments.Reading
