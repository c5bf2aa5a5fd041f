/-!
# Blank characters

The characters that separate words in Unicode text, and the removal of blanks around a text.
-/

namespace Espressivo
namespace Text

/-- The code points that count as white space. -/
def blankRanges : List (Nat × Nat) := [
  (0x9, 0xD), (0x20, 0x20), (0x85, 0x85), (0xA0, 0xA0), (0x1680, 0x1680), (0x2000, 0x200A),
  (0x2028, 0x2029), (0x202F, 0x202F), (0x205F, 0x205F), (0x3000, 0x3000)]

/-- The code point lies in one of the ranges, ends included. -/
def inRanges (ranges : List (Nat × Nat)) (c : Char) : Bool :=
  ranges.any fun range => range.1 ≤ c.toNat && c.toNat ≤ range.2

def isBlank (c : Char) : Bool := inRanges blankRanges c

/-- The list without the elements at its end that satisfy the test. -/
def dropRightWhile (test : Char → Bool) (text : List Char) : List Char :=
  (text.reverse.dropWhile test).reverse

/-- The text without blanks at either end. -/
def trim (text : List Char) : List Char := dropRightWhile isBlank (text.dropWhile isBlank)

end Text
end Espressivo
