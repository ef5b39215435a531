import StagedMocks.Regex.CharSet
import StagedMocks.Text.Script

/-!
Properties of characters by their names: general categories, scripts, and a few
more. Case, blanks, hyphens and underscores in names do not matter, and neither
does a leading "is".
-/
namespace StagedMocks.Regex.Property

/-- A name as it is looked up. -/
def plainName (name : Text) : Text :=
  let isMarked := (name.take 2).map Char.toLower = "is".toList
  let body := if isMarked then name.drop 2 else name
  let plain := (body.filter fun c => c.toNat < 128 && c != ' ' && c != '_' && c != '-').map Char.toLower
  if isMarked && plain == ['c'] then "isc".toList else plain

def categories : List (List String × List Text.Category) :=
  [(["lu", "uppercaseletter"], [.uppercaseLetter]),
   (["ll", "lowercaseletter"], [.lowercaseLetter]),
   (["lt", "titlecaseletter"], [.titlecaseLetter]),
   (["lc", "casedletter"], [.uppercaseLetter, .lowercaseLetter, .titlecaseLetter]),
   (["lm", "modifierletter"], [.modifierLetter]),
   (["lo", "otherletter"], [.otherLetter]),
   (["l", "letter"],
    [.uppercaseLetter, .lowercaseLetter, .titlecaseLetter, .modifierLetter, .otherLetter]),
   (["mn", "nonspacingmark"], [.nonspacingMark]),
   (["mc", "spacingmark"], [.spacingMark]),
   (["me", "enclosingmark"], [.enclosingMark]),
   (["m", "mark", "combiningmark"], [.nonspacingMark, .spacingMark, .enclosingMark]),
   (["nd", "decimalnumber", "digit"], [.decimalNumber]),
   (["nl", "letternumber"], [.letterNumber]),
   (["no", "othernumber"], [.otherNumber]),
   (["n", "number"], [.decimalNumber, .letterNumber, .otherNumber]),
   (["pc", "connectorpunctuation"], [.connectorPunctuation]),
   (["pd", "dashpunctuation"], [.dashPunctuation]),
   (["ps", "openpunctuation"], [.openPunctuation]),
   (["pe", "closepunctuation"], [.closePunctuation]),
   (["pi", "initialpunctuation"], [.initialPunctuation]),
   (["pf", "finalpunctuation"], [.finalPunctuation]),
   (["po", "otherpunctuation"], [.otherPunctuation]),
   (["p", "punctuation", "punct"],
    [.connectorPunctuation, .dashPunctuation, .openPunctuation, .closePunctuation,
     .initialPunctuation, .finalPunctuation, .otherPunctuation]),
   (["sm", "mathsymbol"], [.mathSymbol]),
   (["sc", "currencysymbol"], [.currencySymbol]),
   (["sk", "modifiersymbol"], [.modifierSymbol]),
   (["so", "othersymbol"], [.otherSymbol]),
   (["s", "symbol"], [.mathSymbol, .currencySymbol, .modifierSymbol, .otherSymbol]),
   (["zs", "spaceseparator"], [.spaceSeparator]),
   (["zl", "lineseparator"], [.lineSeparator]),
   (["zp", "paragraphseparator"], [.paragraphSeparator]),
   (["z", "separator"], [.spaceSeparator, .lineSeparator, .paragraphSeparator]),
   (["cc", "control", "cntrl"], [.control]),
   (["cf", "format"], [.format]),
   (["cs", "surrogate"], []),
   (["co", "privateuse"], [.privateUse])]

def ofCategories (categories : List Text.Category) : CharSet :=
  .stretches (categories.flatMap Text.Category.stretches)

def assigned : CharSet :=
  ofCategories Text.Category.all

def category? (name : Text) : Option CharSet :=
  if name = "any".toList then some .all
  else if name = "assigned".toList then some assigned
  else if name = "ascii".toList then some (CharSet.ofNamed .ascii)
  else if name = "cn".toList ∨ name = "unassigned".toList then some (.complement assigned)
  else if name = "c".toList ∨ name = "other".toList then
    some (.union (ofCategories [.control, .format, .privateUse]) (.complement assigned))
  else
    (categories.find? fun (names, _) => names.any (·.toList = name)).map fun (_, categories) =>
      ofCategories categories

def script? (name : Text) : Option CharSet :=
  (Text.scripts.find? fun script => script.names.any (·.toList = name)).map fun script =>
    .stretches script.stretches

/-- The set of a property that characters have or have not. -/
def binary? (name : Text) : Option CharSet :=
  if ["alphabetic", "alpha"].any (·.toList = name) then some .alphabetic
  else if ["lowercase", "lower"].any (·.toList = name) then some .lowercase
  else if ["uppercase", "upper"].any (·.toList = name) then some .uppercase
  else if ["whitespace", "wspace", "space"].any (·.toList = name) then some .blanks
  else none

def isValued (name : Text) : Bool :=
  ["age", "scriptextensions", "scx", "graphemeclusterbreak", "gcb", "wordbreak", "wb",
   "sentencebreak", "sb"].any (·.toList = name)

def find : PropertyQuery → Except Flaw CharSet
  | .named name =>
      let plain := plainName name
      match binary? plain <|> category? plain <|> script? plain with
      | some set => .ok set
      | none => .error .propertyUnknown
  | .valued name value =>
      let plain := plainName name
      let found :=
        if ["generalcategory", "gc"].any (·.toList = plain) then category? (plainName value)
        else if ["script", "sc"].any (·.toList = plain) then script? (plainName value)
        else none
      match found with
      | some set => .ok set
      | none =>
          if ["generalcategory", "gc", "script", "sc"].any (·.toList = plain) ∨ isValued plain ∨
              (binary? plain).isSome then
            .error .propertyValueUnknown
          else .error .propertyUnknown

end StagedMocks.Regex.Property
