import StagedMocks.Arguments.Basic

/-!
Reading a command line from left to right.

A switch that takes a value has it attached or as the next argument. It counts as
given only when the next argument has been recognised, so an argument that is not
known is refused before a bad value in front of it.
-/
namespace StagedMocks.Arguments

structure Reading where
  /-- The switches given, in order, with their values; those without one have an empty value. -/
  given : List (Switch × Text)
  files : List Text
  /-- A switch that does not count as given yet, with its value if that has come. -/
  pending : Option (Switch × Option Text)

inductive Meaning where
  /-- what follows are files -/
  | endOfSwitches
  | switch (switch : Switch) (value : Option Text)
  | help (isLong : Bool)
  | version
  | refused (refusal : Refusal)
  | plain

def longMeaning (name : Text) (value : Option Text) : Meaning :=
  let spelled := "--".toList ++ name
  let flag (meaning : Meaning) : Meaning :=
    match value with
    | some value => .refused (.unexpectedValue value spelled)
    | none => meaning
  if name = "help".toList then flag (.help true)
  else if name = "version".toList then flag .version
  else
    match Switch.all.find? (·.name.toList = name) with
    | none => .refused (.unexpectedArgument spelled)
    | some switch => if switch.valueName?.isSome then .switch switch value else flag (.switch switch none)

def shortMeaning (letter : Char) (rest : Text) : Meaning :=
  match letter with
  | 'l' =>
      match rest with
      | [] => .switch .logLevel none
      | '=' :: value => .switch .logLevel (some value)
      | value => .switch .logLevel (some value)
  | 'h' => .help false
  | 'V' => .version
  | other => .refused (.unexpectedArgument ['-', other])

/-- The meaning of an argument by its first characters. A hyphen alone is a plain one. -/
def meaning : Text → Meaning
  | ['-', '-'] => .endOfSwitches
  | '-' :: '-' :: s =>
      match s.span (· != '=') with
      | (name, '=' :: value) => longMeaning name (some value)
      | (name, _) => longMeaning name none
  | '-' :: letter :: rest => shortMeaning letter rest
  | _ => .plain

namespace Reading

def start : Reading := ⟨[], [], none⟩

def isGiven (reading : Reading) (switch : Switch) : Bool :=
  reading.given.any (·.1 = switch)

def give (reading : Reading) (switch : Switch) (value : Text) : Except Refusal Reading :=
  if reading.isGiven switch then .error (.repeated switch)
  else if switch = .logLevel ∧ value.isEmpty then .error (.missingValue switch)
  else if switch = .logLevel ∧ (Log.Verbosity.ofName? value).isNone then .error (.invalidLevel value)
  else .ok { reading with given := reading.given ++ [(switch, value)] }

def settle (reading : Reading) : Except Refusal Reading :=
  match reading.pending with
  | none => .ok reading
  | some (switch, none) => .error (.missingValue switch)
  | some (switch, some value) => { reading with pending := none }.give switch value

/-- Takes a switch: one with a value, or without need of one, counts as given. -/
def takeSwitch (reading : Reading) (switch : Switch) (value : Option Text) :
    Except Refusal Reading := do
  let settled ← reading.settle
  match value with
  | some value => settled.give switch value
  | none =>
      if switch.valueName?.isSome then return { settled with pending := some (switch, none) }
      else settled.give switch []

/-- Takes a plain argument: the value for which a switch waits, or a file. -/
def takePlain (reading : Reading) (argument : Text) : Except Refusal Reading :=
  match reading.pending with
  | some (switch, none) => .ok { reading with pending := some (switch, some argument) }
  | _ => do
      let settled ← reading.settle
      return { settled with files := settled.files ++ [argument] }

def value? (reading : Reading) (switch : Switch) : Option Text :=
  reading.given.lookup switch

/-- Refuses switches that exclude each other; the first of them given is named first. -/
def checkExclusions (reading : Reading) : Except Refusal Unit :=
  let switches := reading.given.map (·.1)
  match switches.find? fun switch => switches.any switch.excludes with
  | none => .ok ()
  | some switch => .error (.excluded switch (switches.filter switch.excludes))

def finish (reading : Reading) : Except Refusal Arguments := do
  let settled ← reading.settle
  settled.checkExclusions
  let verbosity := (settled.value? .logLevel).bind Log.Verbosity.ofName?
  match settled.value? .initConfig with
  | some path =>
      return { command := .initialise, filenames := [path], settingsPath := none, verbosity
               arePatterns := false }
  | none =>
      if settled.files.isEmpty then .error .noFiles
      else
        return { command := if settled.isGiven .check then .check else .update
                 filenames := settled.files
                 settingsPath := settled.value? .config
                 verbosity
                 arePatterns := settled.isGiven .multi }

def readRest (reading : Reading) : List Text → Except Refusal Request
  | [] => do return .run (← reading.finish)
  | argument :: rest =>
      match meaning argument with
      | .endOfSwitches => do
          let settled ← reading.settle
          return .run (← { settled with files := settled.files ++ rest }.finish)
      | .switch switch value => do (← reading.takeSwitch switch value).readRest rest
      | .help isLong => do
          let _ ← reading.settle
          return .help isLong
      | .version => do
          let _ ← reading.settle
          return .version
      | .refused refusal => .error refusal
      | .plain => do (← reading.takePlain argument).readRest rest

end Reading

/-- Reads a command line, of which the first argument names the program. -/
def read (commandLine : List Text) : Except Refusal Request :=
  Reading.start.readRest commandLine.tail

end StagedMocks.Arguments
