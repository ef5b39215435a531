import StagedMocks.Text.Basic

/-!
Patterns and the places where they match.

The places of a text are the gaps between its characters, numbered from zero on;
a set of places is a number whose bits say which places belong to it. A pattern
leads from the places where a match can start to those where it can end, so all
matches are followed at the same time.
-/
namespace StagedMocks.Regex

/-- A pattern over characters that are told apart by `σ` and conditions on places from `τ`. -/
inductive Pattern (σ τ : Type) where
  | empty
  | char (set : σ)
  /-- nothing, where a condition holds -/
  | assertion (condition : τ)
  | concat (first second : Pattern σ τ)
  | alternation (first second : Pattern σ τ)
  /-- at least `least` times, and at most `most` times if there is a limit -/
  | repetition (inner : Pattern σ τ) (least : Nat) (most : Option Nat)

/-- A set of places, as the bits of a number. -/
abbrev Places := Nat

namespace Places

/-- The set with the place zero, or without it, and with the places of `later` one further. -/
def cons (isFirst : Bool) (later : Places) : Places :=
  isFirst.toNat ||| later <<< 1

def first (count : Nat) : Places :=
  1 <<< count - 1

def beforeChar (property : Char → Bool) : Text → Places
  | [] => 0
  | c :: s => cons (property c) (beforeChar property s)

/-- The places at which a condition on the characters around them holds, behind a character. -/
def between (condition : Option Char → Option Char → Bool) : Option Char → Text → Places
  | previous, [] => cons (condition previous none) 0
  | previous, c :: s => cons (condition previous (some c)) (between condition (some c) s)

/-- Follows a step so many times, or until nothing changes. -/
def iterate (step : Places → Places) : Nat → Places → Places
  | 0, places => places
  | count + 1, places =>
      let next := step places
      if next = places then places else iterate step count next

/-- Follows a step at most so many times, and keeps the places on the way. -/
def gather (step : Places → Places) (count : Nat) (places : Places) : Places :=
  iterate (fun places => places ||| step places) count places

end Places

namespace Pattern

variable {σ τ σ' τ' : Type}

def map (f : σ → σ') (g : τ → τ') : Pattern σ τ → Pattern σ' τ'
  | .empty => .empty
  | .char set => .char (f set)
  | .assertion condition => .assertion (g condition)
  | .concat first second => .concat (first.map f g) (second.map f g)
  | .alternation first second => .alternation (first.map f g) (second.map f g)
  | .repetition inner least most => .repetition (inner.map f g) least most

/-- The places where a match can end that starts at one of the given places. The sets and conditions
of the pattern are given by their places, of which there are `count`. -/
def ends (count : Nat) : Pattern Places Places → Places → Places
  | .empty, starts => starts
  | .char set, starts => (starts &&& set) <<< 1
  | .assertion condition, starts => starts &&& condition
  | .concat first second, starts => second.ends count (first.ends count starts)
  | .alternation first second, starts => first.ends count starts ||| second.ends count starts
  | .repetition inner least most, starts =>
      let begun := Places.iterate (inner.ends count) least starts
      let more := (most.map (· - least)).getD count
      Places.gather (inner.ends count) more begun

def placed (has : σ → Char → Bool) (holds : τ → Option Char → Option Char → Bool) (s : Text)
    (pattern : Pattern σ τ) : Pattern Places Places :=
  pattern.map (fun set => Places.beforeChar (has set) s) fun condition =>
    Places.between (holds condition) none s

def occursIn (has : σ → Char → Bool) (holds : τ → Option Char → Option Char → Bool) (s : Text)
    (pattern : Pattern σ τ) : Bool :=
  (pattern.placed has holds s).ends (s.length + 1) (Places.first (s.length + 1)) ≠ 0

end Pattern

end StagedMocks.Regex
