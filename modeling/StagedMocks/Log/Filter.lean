import StagedMocks.Log.Record
import StagedMocks.Regex.Meaning

/-!
Which log records are shown.

A filter is made of directives. One with a target governs the records whose
target starts with it, and one without governs all. Of those that govern a
record, the one with the longest target decides; of equally long ones, the
later.
-/
namespace StagedMocks.Log

inductive Verbosity where
  | off
  | error
  | warn
  | info
  | debug
  | trace
  deriving DecidableEq, Repr

namespace Verbosity

def all : List Verbosity :=
  [.off, .error, .warn, .info, .debug, .trace]

def name : Verbosity → String
  | .off => "off"
  | .error => "error"
  | .warn => "warn"
  | .info => "info"
  | .debug => "debug"
  | .trace => "trace"

def rank : Verbosity → Nat
  | .off => 0
  | .error => 1
  | .warn => 2
  | .info => 3
  | .debug => 4
  | .trace => 5

def shows (verbosity : Verbosity) (level : Level) : Bool :=
  level.rank ≤ verbosity.rank

def ofName? (name : Text) : Option Verbosity :=
  all.find? (·.name.toList = name)

def ofAnyCase? (name : Text) : Option Verbosity :=
  ofName? (name.map Char.toLower)

end Verbosity

structure Directive where
  target : Option Text
  verbosity : Verbosity
  deriving DecidableEq, Repr

namespace Directive

def targetLength (directive : Directive) : Nat :=
  (directive.target.map Text.byteLength).getD 0

def governs (directive : Directive) (target : Text) : Bool :=
  match directive.target with
  | some start => start.isPrefixOf target
  | none => true

end Directive

structure Filter where
  directives : List Directive
  /-- An expression that matches somewhere in the message of every shown record. -/
  mention : Option Regex.Expression

namespace Filter

def empty : Filter := ⟨[], none⟩

/-- Directives with one more, which takes the place of an earlier one with its target. -/
def putDirective (new : Directive) : List Directive → List Directive
  | [] => [new]
  | d :: rest => if d.target = new.target then new :: rest else d :: putDirective new rest

def notUnderstood (part : Text) : Text :=
  "invalid logging spec '".toList ++ part ++ "'".toList

/-- Reads one directive: a verbosity, a target, or both with an equals sign between them. -/
def directive (s : Text) : Except Text Directive :=
  match Text.splitAt '=' s with
  | [whole] =>
      match Verbosity.ofAnyCase? whole with
      | some verbosity => .ok ⟨none, verbosity⟩
      | none => .ok ⟨some whole, .trace⟩
  | [target, level] =>
      let name := Text.trim level
      if name.isEmpty then .ok ⟨some target, .trace⟩
      else
        match Verbosity.ofAnyCase? name with
        | some verbosity => .ok ⟨some target, verbosity⟩
        | none => .error (notUnderstood name)
  | _ => .error (notUnderstood s)

def addDirectives (filter : Filter) : List Text → Filter × List Text
  | [] => (filter, [])
  | s :: rest =>
      let part := Text.trim s
      if part.isEmpty then addDirectives filter rest
      else
        match directive part with
        | .ok new =>
            addDirectives { filter with directives := putDirective new filter.directives } rest
        | .error remark =>
            let (result, remarks) := addDirectives filter rest
            (result, remark :: remarks)

def refused (why : Text) : Text :=
  "invalid regex filter - ".toList ++ why

/-- Reads a specification into a filter: directives, and behind a slash the expression that messages
have to match. Gives the remarks on what is not understood. -/
def add (filter : Filter) (specification : Text) : Filter × List Text :=
  let bare := { filter with mention := none }
  match Text.splitAt '/' specification with
  | [directives] => bare.addDirectives (Text.splitAt ',' directives)
  | [directives, mention] =>
      let (result, remarks) := bare.addDirectives (Text.splitAt ',' directives)
      match Regex.Expression.read mention with
      | .ok expression => ({ result with mention := some expression }, remarks)
      | .error why => (result, remarks ++ [refused why])
  | _ => (bare, [notUnderstood specification ++ " (too many '/'s)".toList])

/-- The specification in force when the environment gives none. -/
def standard : Text := "warn".toList

/-- The filter of a run: the environment's specification, and then the verbosity that the command
line gives. -/
def ofRun (environment : Option Text) (given : Option Verbosity) : Filter × List Text :=
  let (filter, remarks) := empty.add (environment.getD standard)
  match given with
  | none => (filter, remarks)
  | some verbosity =>
      let (result, more) := filter.add verbosity.name.toList
      (result, remarks ++ more)

/-- The directives from the shortest target on. Without any, errors are shown. -/
def inOrder (filter : Filter) : List Directive :=
  if filter.directives.isEmpty then [⟨none, .error⟩]
  else filter.directives.mergeSort fun a b => a.targetLength ≤ b.targetLength

def shows (filter : Filter) (record : Record) : Bool :=
  match filter.inOrder.reverse.find? (·.governs record.target) with
  | none => false
  | some directive =>
      directive.verbosity.shows record.level &&
        filter.mention.all (·.occursIn record.message)

end Filter

end StagedMocks.Log
