import StagedMocks.Text.Basic

/-!
Blank characters: those with the Unicode property White_Space.

Line ends count as blank, among them U+0085, U+2028 and U+2029. The zero width
space and the byte order mark do not.
-/
namespace StagedMocks.Text

/-- The ranges of White_Space, both ends included. -/
def blankRanges : List (Nat × Nat) :=
  [(0x09, 0x0D), (0x20, 0x20), (0x85, 0x85), (0xA0, 0xA0), (0x1680, 0x1680),
   (0x2000, 0x200A), (0x2028, 0x2029), (0x202F, 0x202F), (0x205F, 0x205F), (0x3000, 0x3000)]

def isBlank (c : Char) : Bool :=
  blankRanges.any fun (low, high) => low ≤ c.toNat && c.toNat ≤ high

def isAllBlank (s : Text) : Bool :=
  s.all isBlank

/-- The maximal runs of characters that are not blank. -/
def words (s : Text) : List Text :=
  (s.splitOnP isBlank).filter (!·.isEmpty)

def trim (s : Text) : Text :=
  ((s.dropWhile isBlank).reverse.dropWhile isBlank).reverse

end StagedMocks.Text
