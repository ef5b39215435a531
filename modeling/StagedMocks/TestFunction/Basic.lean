import StagedMocks.Text.Blank

/-!
A test function as it stands in a source text: its declaration, the effect
keywords behind it, and the body between the opening brace and the closing line.
-/
namespace StagedMocks

structure TestFunction where
  /-- The declaration, the effects and the opening brace. -/
  header : Text
  declaration : Text
  /-- The effect keywords, each with the blanks before it. -/
  effects : Text
  body : Text
  /-- All of it, the closing line included. -/
  text : Text
  deriving DecidableEq, Repr

namespace TestFunction

def declarationWord : Text := "func ".toList

def emptyParameters : Text := "()".toList

/-- A text without `opening` at its beginning, as often as it stands there. -/
def stripLeading (opening : Text) : Nat → Text → Text
  | 0, s => s
  | fuel + 1, s =>
      match Text.after? opening s with
      | some rest => stripLeading opening fuel rest
      | none => s

def stripTrailing (closing s : Text) : Text :=
  (stripLeading closing.reverse s.length s.reverse).reverse

/-- The name between the word `func ` and the empty parameter list. -/
def name (function : TestFunction) : Text :=
  stripTrailing emptyParameters
    (stripLeading declarationWord function.declaration.length function.declaration)

def keywords (function : TestFunction) : List Text :=
  Text.words function.effects

def isThrowing (function : TestFunction) : Bool :=
  "throws".toList ∈ function.keywords

end TestFunction

end StagedMocks
