import StagedMocks.Toml.Quoted

/-!
Numbers of TOML.

Integers are those of 64 bits with a sign. A decimal is accepted unless the
nearest double is positive infinity.
-/
namespace StagedMocks.Toml

inductive Number where
  | integer (value : Int)
  /-- `digits` times ten to the `exponent` -/
  | decimal (isNegative : Bool) (digits : Nat) (exponent : Int)
  | infinity (isNegative : Bool)
  | notANumber
  deriving DecidableEq, Repr

namespace Number

/-- Reads the digits behind a digit. An underscore may stand before each and is dropped. -/
def moreDigits (isDigit : Char → Bool) : Text → Text × Text
  | '_' :: d :: s =>
      if isDigit d then
        let (more, rest) := moreDigits isDigit s
        (d :: more, rest)
      else ([], '_' :: d :: s)
  | c :: s =>
      if isDigit c then
        let (more, rest) := moreDigits isDigit s
        (c :: more, rest)
      else ([], c :: s)
  | [] => ([], [])

def digits? (isDigit : Char → Bool) : Text → Option (Text × Text)
  | c :: s =>
      if isDigit c then
        let (more, rest) := moreDigits isDigit s
        some (c :: more, rest)
      else none
  | [] => none

def valueOf (base : Nat) (digits : Text) : Nat :=
  digits.foldl (fun value c => base * value + (hexValue? c).getD 0) 0

/-- An integer, if it has 64 bits with a sign. -/
def integer? (value : Int) : Option Number :=
  if -0x8000000000000000 ≤ value ∧ value < 0x8000000000000000 then some (.integer value) else none

def base? : Char → Option (Nat × (Char → Bool))
  | 'x' => some (16, fun c => (hexValue? c).isSome)
  | 'o' => some (8, fun c => '0' ≤ c && c ≤ '7')
  | 'b' => some (2, fun c => c == '0' || c == '1')
  | _ => none

/-- Reads an integer of another base than ten; it has no sign. -/
def based? : Text → Option (Number × Text)
  | '0' :: letter :: s => do
      let (base, isDigit) ← base? letter
      let (digits, rest) ← digits? isDigit s
      return (← integer? (valueOf base digits), rest)
  | _ => none

def sign : Text → Bool × Text
  | '+' :: s => (false, s)
  | '-' :: s => (true, s)
  | s => (false, s)

/-- Reads the whole part of a decimal: a zero alone, or digits that do not start with one. -/
def whole? : Text → Option (Text × Text)
  | '0' :: s => some (['0'], s)
  | s => digits? Char.isDigit s

def fraction? : Text → Option (Text × Text)
  | '.' :: s => digits? Char.isDigit s
  | s => some ([], s)

def exponent? (s : Text) : Option (Option Int × Text) :=
  match s with
  | c :: s =>
      if c == 'e' || c == 'E' then do
        let (negative, rest) := sign s
        let (digits, rest) ← digits? Char.isDigit rest
        let value : Int := valueOf 10 digits
        return (some (if negative then -value else value), rest)
      else some (none, c :: s)
  | [] => some (none, [])

/-- The least number that is nearer to infinity than to any double: halfway between the greatest
double and the next power of two. -/
def overflow : Nat := 1 <<< 1024 - 1 <<< 970

/-- Whether `digits` times ten to the `exponent` reaches the overflow. Digits and exponent decide by
their size alone unless the number has about as many digits as the bound, which has 309. -/
def overflows (digits : Text) (exponent : Int) : Bool :=
  let significant := digits.dropWhile (· == '0')
  let size : Int := significant.length + exponent
  if significant.isEmpty || size < 309 then false
  else if 309 < size then true
  else
    let value := valueOf 10 significant
    if 0 ≤ exponent then overflow ≤ value * Nat.pow 10 exponent.toNat
    else overflow * Nat.pow 10 (-exponent).toNat ≤ value

def special? (s : Text) : Option (Number × Text) :=
  let (negative, rest) := sign s
  match Text.after? "inf".toList rest with
  | some rest => some (.infinity negative, rest)
  | none => (Text.after? "nan".toList rest).map fun rest => (.notANumber, rest)

def decimal? (s : Text) : Option (Number × Text) := do
  let (negative, rest) := sign s
  let (whole, rest) ← whole? rest
  let (fraction, rest) ← fraction? rest
  let (exponent, rest) ← exponent? rest
  if fraction.isEmpty && exponent.isNone then
    let value : Int := valueOf 10 whole
    return (← integer? (if negative then -value else value), rest)
  else
    let digits := whole ++ fraction
    let power := exponent.getD 0 - fraction.length
    if !negative && overflows digits power then none
    else return (.decimal negative (valueOf 10 digits) power, rest)

def read? (s : Text) : Option (Number × Text) :=
  based? s <|> special? s <|> decimal? s

end Number

end StagedMocks.Toml
