/-!
# Blank characters

The characters of Unicode's property `White_Space`, and the removal of blanks
from both ends of a text.
-/

namespace Toolpath.Text

/-- The characters with the property `White_Space`. -/
def isBlank (character : Char) : Bool :=
  let code := character.toNat
  (0x09 ≤ code && code ≤ 0x0d) || code == 0x20 || code == 0x85
    || code == 0xa0 || code == 0x1680 || (0x2000 ≤ code && code ≤ 0x200a)
    || code == 0x2028 || code == 0x2029 || code == 0x202f
    || code == 0x205f || code == 0x3000

/-- Removes blanks from both ends. -/
def trimBlanks (text : List Char) : List Char :=
  ((text.dropWhile isBlank).reverse.dropWhile isBlank).reverse

/-- Whether a text consists of blanks only, or of nothing. -/
def isAllBlank (text : String) : Bool := text.toList.all isBlank

end Toolpath.Text
