import StagedMocks.Regex.Brackets
import StagedMocks.Text.Category

/-!
Reading a regular expression.

Groups that are open are kept from the innermost on, each with what was read
before it.
-/
namespace StagedMocks.Regex

namespace Reader

/-- What has been read in a group: the alternatives before the last one, and the parts of the last
one, each from the last on. -/
structure Level where
  branches : List Tree
  parts : List Tree

namespace Level

def empty : Level := ⟨[], []⟩

def add (level : Level) (part : Tree) : Level :=
  { level with parts := part :: level.parts }

def branch (level : Level) : Tree :=
  match level.parts with
  | [] => .empty
  | part :: parts => parts.foldl (fun behind part => .concat part behind) part

/-- The level behind a bar. -/
def endBranch (level : Level) : Level :=
  ⟨level.branch :: level.branches, []⟩

def tree (level : Level) : Tree :=
  level.branches.foldl (fun behind branch => .alternation branch behind) level.branch

end Level

structure OpenGroup where
  span : Span
  change : FlagChange
  before : Level
  /-- Whether the expression was spaced before the group. -/
  wasSpaced : Bool

structure State where
  cursor : Cursor
  level : Level
  groups : List OpenGroup
  isSpaced : Bool
  names : List (Text × Span)

namespace State

def start (expression : Text) : State :=
  ⟨⟨0, expression⟩, .empty, [], false, []⟩

def push (state : State) (part : Tree) (cursor : Cursor) : State :=
  { state with level := state.level.add part, cursor }

end State

def isNameChar (isFirst : Bool) (c : Char) : Bool :=
  if isFirst then c == '_' || Text.isAlphabetic c
  else c == '_' || c == '.' || c == '[' || c == ']' || Text.isAlphanumeric c

def nameChars : Bool → Nat → Cursor → Reading (Text × Cursor)
  | _, 0, cursor => refuse .nameUnclosed cursor.here
  | isFirst, limit + 1, cursor =>
      match cursor.next? with
      | none => refuse .nameUnclosed cursor.here
      | some '>' => .ok ([], cursor)
      | some c =>
          if isNameChar isFirst c then do
            let (more, behind) ← nameChars false limit (cursor.skip 1)
            return (c :: more, behind)
          else refuse .nameChar cursor.nextSpan

/-- Reads a group name, which no other group has. -/
def groupName (names : List (Text × Span)) (cursor : Cursor) :
    Reading (List (Text × Span) × Cursor) := do
  let (name, behind) ← nameChars true (cursor.rest.length + 1) cursor
  let span := behind.since cursor.position
  if name.isEmpty then refuse .nameEmpty cursor.here
  match names.lookup name with
  | some earlier => .error { flaw := .nameRepeated, span, earlier := some earlier }
  | none => return ((name, span) :: names, behind.skip 1)

/-- Flags that have been read, with their places. A hyphen is no flag. -/
abbrev FlagItems := List (Option Flag × Span)

/-- Refuses a flag or a hyphen that has been read before. -/
def checkNewFlag (items : FlagItems) (flag : Option Flag) (span : Span) : Reading Unit :=
  match items.lookup flag with
  | none => .ok ()
  | some earlier =>
      .error { flaw := if flag.isNone then .flagNegationRepeated else .flagRepeated, span
               earlier := some earlier }

def flagItems : Nat → FlagItems → Cursor → Reading (FlagItems × Cursor)
  | 0, _, cursor => refuse .flagUnfinished cursor.here
  | limit + 1, items, cursor =>
      match cursor.next? with
      | none => refuse .flagUnfinished cursor.here
      | some c =>
          if c = ':' ∨ c = ')' then
            match items.getLast? with
            | some (none, span) => refuse .flagDanglingNegation span
            | _ => .ok (items, cursor)
          else do
            let flag ←
              if c = '-' then pure none
              else
                match Flag.ofLetter? c with
                | some flag => pure (some flag)
                | none => refuse .flagUnknown cursor.nextSpan
            checkNewFlag items flag cursor.nextSpan
            flagItems limit (items ++ [(flag, cursor.nextSpan)]) (cursor.skip 1)

/-- What flags are set to: those behind a hyphen are switched off. -/
def change (items : FlagItems) : FlagChange :=
  let on := items.takeWhile (·.1.isSome)
  let off := items.dropWhile (·.1.isSome)
  on.filterMap (fun item => item.1.map (·, true)) ++ off.filterMap fun item => item.1.map (·, false)

def openGroup (state : State) (span : Span) (change : FlagChange) (cursor : Cursor) : State :=
  { state with
    cursor
    level := .empty
    groups := ⟨span, change, state.level, state.isSpaced⟩ :: state.groups
    isSpaced := (change.lookup .spaced).getD state.isSpaced }

/-- Reads what follows a parenthesis and a question mark: flags for a group, or flags for what
follows. -/
def flagged (state : State) (span : Span) (cursor : Cursor) : Reading State := do
  if cursor.isAtEnd then refuse .groupUnclosed span
  let (items, behind) ← flagItems (cursor.rest.length + 1) [] cursor
  let change := change items
  let final := behind.skip 1
  if behind.next? = some ':' then return openGroup state span change final
  if items.isEmpty then refuse .nothingToRepeat ⟨cursor.position - 1, cursor.position - 1⟩
  let next := state.push (.flags change) final
  return { next with isSpaced := (change.lookup .spaced).getD state.isSpaced }

def lookAround? (cursor : Cursor) : Option Cursor :=
  cursor.after? "?=" <|> cursor.after? "?!" <|> cursor.after? "?<=" <|> cursor.after? "?<!"

def group (state : State) : Reading State := do
  let span := state.cursor.nextSpan
  let inside := state.cursor.advance state.isSpaced
  if let some behind := lookAround? inside then refuse .lookAround (behind.since span.start)
  match inside.after? "?P<" <|> inside.after? "?<" with
  | some cursor =>
      let (names, behind) ← groupName state.names cursor
      return openGroup { state with names } span [] behind
  | none =>
      match inside.after? "?" with
      | some cursor => flagged state span cursor
      | none => return openGroup state span [] inside

def closeGroup (state : State) : Reading State :=
  match state.groups with
  | [] => refuse .groupUnopened state.cursor.nextSpan
  | group :: groups =>
      .ok { state with
            cursor := state.cursor.skip 1
            level := group.before.add (.group group.change state.level.tree)
            groups
            isSpaced := group.wasSpaced }

/-- The part that a repetition repeats, and the level before it. -/
def repeated (state : State) : Reading (Tree × Level) :=
  match state.level.parts with
  | [] | .flags _ :: _ => refuse .nothingToRepeat state.cursor.here
  | part :: parts => .ok (part, { state.level with parts })

/-- The cursor behind a question mark that makes a repetition prefer to be short. -/
def skipLazy (cursor : Cursor) : Cursor :=
  (cursor.after? "?").getD cursor

def simpleRepetition (state : State) (least : Nat) (most : Option Nat) : Reading State := do
  let (part, before) ← repeated state
  let cursor := skipLazy (state.cursor.skip 1)
  return { state with cursor, level := before.add (.repetition part least most) }

def skipBlanks (cursor : Cursor) : Cursor :=
  cursor.skip (cursor.rest.takeWhile Text.isBlank).length

/-- Numbers in repetitions have 32 bits. -/
def countLimit : Nat := 0x100000000

/-- Reads a number. Gives the cursor behind it also if there is none, or one that is too large. -/
def number (isSpaced : Bool) (cursor : Cursor) : Reading Nat × Cursor :=
  let first := skipBlanks cursor
  let (digits, behind) := first.takeWhile isSpaced Char.isDigit first.rest.length
  let final := (skipBlanks behind).skipSpace isSpaced
  let value := digits.foldl (fun value c => 10 * value + (c.toNat - '0'.toNat)) 0
  let result :=
    if digits.isEmpty then refuse .countEmpty (behind.since first.position)
    else if countLimit ≤ value then refuse .numberTooLarge (behind.since first.position)
    else .ok value
  (result, final)

def counts (isSpaced : Bool) (start : Nat) (cursor : Cursor) :
    Reading ((Nat × Option Nat) × Cursor) := do
  if cursor.isAtEnd then refuse .countUnclosed (cursor.since start)
  let (least, behind) := number isSpaced cursor
  if behind.isAtEnd then refuse .countUnclosed (behind.since start)
  if behind.next? = some ',' then
    let second := behind.advance isSpaced
    if second.isAtEnd then refuse .countUnclosed (second.since start)
    if second.next? = some '}' then return ((← least, none), second)
    let least ← least
    let (most, final) := number isSpaced second
    return ((least, some (← most)), final)
  else
    let count ← least
    return ((count, some count), behind)

def countedRepetition (state : State) : Reading State := do
  let (part, before) ← repeated state
  let start := state.cursor.position
  let ((least, most), behind) ← counts state.isSpaced start (state.cursor.advance state.isSpaced)
  if behind.next? ≠ some '}' then refuse .countUnclosed (behind.since start)
  let cursor := skipLazy (behind.advance state.isSpaced)
  if most.any (· < least) then refuse .countOrder (cursor.since start)
  return { state with cursor, level := before.add (.repetition part least most) }

def leaf (isSpaced : Bool) (c : Char) (cursor : Cursor) : Reading (Leaf × Cursor) :=
  let span := cursor.nextSpan
  match c with
  | '\\' => Escape.read isSpaced cursor
  | '.' => .ok (.anyChar span, cursor.skip 1)
  | '^' => .ok (.assertion span .lineStart, cursor.skip 1)
  | '$' => .ok (.assertion span .lineEnd, cursor.skip 1)
  | c => .ok (.literal ⟨span, c, false⟩, cursor.skip 1)

def step (state : State) (c : Char) : Reading State :=
  match c with
  | '(' => group state
  | ')' => closeGroup state
  | '|' => .ok { state with level := state.level.endBranch, cursor := state.cursor.skip 1 }
  | '[' => do
      let (tree, behind) ← Brackets.read state.isSpaced state.cursor
      return state.push tree behind
  | '?' => simpleRepetition state 0 (some 1)
  | '*' => simpleRepetition state 0 none
  | '+' => simpleRepetition state 1 none
  | '{' => countedRepetition state
  | c => do
      let (leaf, behind) ← leaf state.isSpaced c state.cursor
      return state.push (.leaf leaf) behind

def parts : Nat → State → Reading State
  | 0, state => .ok state
  | limit + 1, state => do
      let state := { state with cursor := state.cursor.skipSpace state.isSpaced }
      match state.cursor.next? with
      | none => return state
      | some c => parts limit (← step state c)

end Reader

def Tree.read (expression : Text) : Reading Tree := do
  let state ← Reader.parts (expression.length + 1) (.start expression)
  match state.groups with
  | [] => return state.level.tree
  | unclosed :: _ => refuse .groupUnclosed unclosed.span

end StagedMocks.Regex
