/-!
# Hexadecimal digits
-/

namespace Toolpath.Text

/-- The value of a hexadecimal digit in either case. -/
def hexValue? (character : Char) : Option Nat :=
  let code := character.toNat
  if 0x30 ≤ code ∧ code ≤ 0x39 then some (code - 0x30)
  else if 0x61 ≤ code ∧ code ≤ 0x66 then some (code - 0x57)
  else if 0x41 ≤ code ∧ code ≤ 0x46 then some (code - 0x37)
  else none

/-- Whether a character is a hexadecimal digit in either case. -/
def isHexDigit (character : Char) : Bool := (hexValue? character).isSome

/-- The value of a row of hexadecimal digits. -/
def hexNumber? (digits : List Char) : Option Nat :=
  digits.foldlM (fun value digit => (hexValue? digit).map (16 * value + ·)) 0

/-- Reads a hexadecimal number that stands on its own and may have a plus
sign. -/
def readHex? (text : List Char) : Option Nat :=
  let digits :=
    match text with
    | '+' :: rest => rest
    | text => text
  if digits.isEmpty then none else hexNumber? digits

end Toolpath.Text
