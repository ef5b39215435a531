import StagedMocks.Scan

/-!
The two legacy statements of a test body: the one that stages a payload and the
assertion on the last requested URL.

Each is an opening, a quoted argument that stays on its line, and a closing. The
argument ends at the first `")`, so it may hold quotes and parentheses.
-/
namespace StagedMocks

structure Statement where
  opening : Text
  argument : Text
  closing : Text
  deriving DecidableEq, Repr

namespace Statement

def text (statement : Statement) : Text :=
  statement.opening ++ statement.argument ++ statement.closing

def argumentEnd : Text := "\")".toList

/-- Reads an argument and its end; the argument holds no line feed. -/
def argument? : Text → Option (Text × Text)
  | '"' :: ')' :: s => some ([], s)
  | [] => none
  | c :: s =>
      if c = '\n' then none
      else (argument? s).map fun (argument, rest) => (c :: argument, rest)

def stagingOpening : Text := "session.nextData = jsonData(named: \"".toList

def staging? (s : Text) : Option Statement := do
  let rest ← Text.after? stagingOpening s
  let (argument, _) ← argument? rest
  return ⟨stagingOpening, argument, argumentEnd⟩

def assertionOpening : Text := "XCTAssertEqual(session.lastURL?.".toList

def accessor : Text := "absoluteString".toList

def expectedOpening : Text := ", \"".toList

/-- Reads the assertion on the last URL, with the line feed behind it if there is one. -/
def assertion? (s : Text) : Option Statement := do
  let subject ← Text.after? assertionOpening s
  let (named, rest) :=
    match Text.after? accessor subject with
    | some rest => (accessor, rest)
    | none => ([], subject)
  let quoted ← Text.after? expectedOpening rest
  let (argument, behind) ← argument? quoted
  let lineEnd := if behind.head? = some '\n' then ['\n'] else []
  return ⟨assertionOpening ++ named ++ expectedOpening, argument, argumentEnd ++ lineEnd⟩

/-- The argument of the first statement of a kind. An empty one counts as missing. -/
def firstArgument? (read? : Text → Option Statement) (body : Text) : Option Text := do
  let (_, statement, _) ← Scan.first? read? text body
  if statement.argument.isEmpty then none else some statement.argument

end Statement

end StagedMocks
