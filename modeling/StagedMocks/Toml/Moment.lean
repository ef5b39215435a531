import StagedMocks.Text.Basic

/-!
Dates and times of TOML, each part with its number of digits and its limits.
-/
namespace StagedMocks.Toml

structure Date where
  year : Nat
  month : Nat
  day : Nat
  deriving DecidableEq, Repr

structure Time where
  hour : Nat
  minute : Nat
  second : Nat
  fraction : Text
  deriving DecidableEq, Repr

/-- The difference from universal time, in minutes. -/
abbrev Offset := Int

inductive Moment where
  | date (date : Date)
  | time (time : Time)
  | dateTime (date : Date) (time : Time)
  | instant (date : Date) (time : Time) (offset : Offset)
  deriving DecidableEq, Repr

namespace Moment

def part? (count low high : Nat) (s : Text) : Option (Nat × Text) :=
  let digits := s.take count
  let value := digits.foldl (fun value c => 10 * value + (c.toNat - '0'.toNat)) 0
  if digits.length = count ∧ digits.all Char.isDigit ∧ low ≤ value ∧ value ≤ high then
    some (value, s.drop count)
  else none

def isLeapYear (year : Nat) : Bool :=
  year % 4 == 0 && (year % 100 != 0 || year % 400 == 0)

def daysIn (year month : Nat) : Nat :=
  if month = 2 then (if isLeapYear year then 29 else 28)
  else if month ∈ [4, 6, 9, 11] then 30
  else 31

def date? (s : Text) : Option (Date × Text) := do
  let (year, s) ← part? 4 0 9999 s
  let (month, s) ← part? 2 1 12 (← Text.after? ['-'] s)
  let (day, s) ← part? 2 1 (daysIn year month) (← Text.after? ['-'] s)
  return (⟨year, month, day⟩, s)

/-- Reads the fraction of a second; a point without digits is not read. -/
def fraction : Text → Text × Text
  | '.' :: s =>
      let digits := s.takeWhile Char.isDigit
      if digits.isEmpty then ([], '.' :: s) else (digits, s.dropWhile Char.isDigit)
  | s => ([], s)

/-- A minute may have a sixty-first second. -/
def time? (s : Text) : Option (Time × Text) := do
  let (hour, s) ← part? 2 0 23 s
  let (minute, s) ← part? 2 0 59 (← Text.after? [':'] s)
  let (second, s) ← part? 2 0 60 (← Text.after? [':'] s)
  let (fraction, s) := fraction s
  return (⟨hour, minute, second, fraction⟩, s)

def offset? (s : Text) : Option (Offset × Text) :=
  match s with
  | 'Z' :: s => some (0, s)
  | 'z' :: s => some (0, s)
  | c :: s =>
      if c = '+' ∨ c = '-' then do
        let (hours, s) ← part? 2 0 23 s
        let (minutes, s) ← part? 2 0 59 (← Text.after? [':'] s)
        let difference : Int := 60 * hours + minutes
        return (if c = '-' then -difference else difference, s)
      else none
  | [] => none

/-- Reads the time behind a date, if one is joined to it by a letter or a space. -/
def timeBehind? : Text → Option (Time × Text)
  | c :: s => if c = 'T' ∨ c = 't' ∨ c = ' ' then time? s else none
  | [] => none

def read? (s : Text) : Option (Moment × Text) :=
  match date? s with
  | none => (time? s).map fun (clock, rest) => (.time clock, rest)
  | some (day, behind) =>
      match timeBehind? behind with
      | none => some (.date day, behind)
      | some (clock, rest) =>
          match offset? rest with
          | none => some (.dateTime day clock, rest)
          | some (offset, rest) => some (.instant day clock offset, rest)

end Moment

end StagedMocks.Toml
