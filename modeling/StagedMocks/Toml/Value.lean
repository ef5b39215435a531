import StagedMocks.Toml.Number
import StagedMocks.Toml.Moment

/-!
Values of TOML, with what the document has said so far about each table.

A table can be extended as long as it is only implied. Once its own header or its
braces have come, it is complete.
-/
namespace StagedMocks.Toml

inductive Scalar where
  | string (text : Text)
  | number (number : Number)
  | moment (moment : Moment)
  | boolean (value : Bool)
  deriving DecidableEq, Repr

inductive Origin where
  /-- by a header of its own, or as the whole document -/
  | header
  /-- by a longer header -/
  | implied
  /-- by a dotted key -/
  | dotted
  /-- in braces -/
  | inline
  deriving DecidableEq, Repr

inductive Value where
  | scalar (scalar : Scalar)
  | array (items : List Value)
  | table (origin : Origin) (entries : List (Text × Value))
  /-- the tables of a repeated header, the latest first -/
  | tables (latest : List Value)

namespace Value

abbrev Entries := List (Text × Value)

def find? (key : Text) (entries : Entries) : Option Value :=
  entries.lookup key

def put (key : Text) (value : Value) : Entries → Entries
  | [] => [(key, value)]
  | (k, v) :: rest => if k = key then (k, value) :: rest else (k, v) :: put key value rest

def isOpenTo (byDottedKey : Bool) : Origin → Bool
  | .header => !byDottedKey
  | .implied | .dotted => true
  | .inline => false

/-- Changes the table to which a key path leads. Tables that are missing on the way are made; a path
by a repeated header leads to the latest table. -/
def changeAt (byDottedKey : Bool) (change : Value → Option Value) : List Text → Value → Option Value
  | [], value => change value
  | key :: path, .table origin entries =>
      match find? key entries with
      | none => do
          let fresh := .table (if byDottedKey then .dotted else .implied) []
          return .table origin (put key (← changeAt byDottedKey change path fresh) entries)
      | some (.table inner below) =>
          if isOpenTo byDottedKey inner then do
            let changed ← changeAt byDottedKey change path (.table inner below)
            return .table origin (put key changed entries)
          else none
      | some (.tables (latest :: earlier)) => do
          let changed ← changeAt byDottedKey change path latest
          return .table origin (put key (.tables (changed :: earlier)) entries)
      | some _ => none
  | _ :: _, _ => none

/-- Adds a value under a key that is not in use. A dotted key adds only to tables that dotted keys
have made, and a plain key only to others. -/
def addEntry (isDotted : Bool) (key : Text) (value : Value) : Value → Option Value
  | .table origin entries =>
      if isDotted = (origin = .dotted) ∧ (find? key entries).isNone then
        some (.table origin (put key value entries))
      else none
  | _ => none

def insert (path : List Text) (key : Text) (value : Value) (table : Value) : Option Value :=
  changeAt true (addEntry (!path.isEmpty) key value) path table

def openTable (key : Text) : Value → Option Value
  | .table origin entries =>
      match find? key entries with
      | none => some (.table origin (put key (.table .header []) entries))
      | some (.table .implied below) => some (.table origin (put key (.table .header below) entries))
      | some _ => none
  | _ => none

def openNext (key : Text) : Value → Option Value
  | .table origin entries =>
      match find? key entries with
      | none => some (.table origin (put key (.tables [.table .header []]) entries))
      | some (.tables earlier) =>
          some (.table origin (put key (.tables (.table .header [] :: earlier)) entries))
      | some _ => none
  | _ => none

end Value

end StagedMocks.Toml
