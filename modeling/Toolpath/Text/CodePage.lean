/-!
# Code page 1252

The Western code page of one byte for each character.  Outside the bytes from
80 to 9f it agrees with the numbers of Unicode.
-/

namespace Toolpath.Text

/-- The numbers of the characters for the bytes from 80 to 9f.  A byte
without a character of its own stands for the control character with its
number. -/
def codePageRow : List Nat :=
  [0x20ac, 0x0081, 0x201a, 0x0192, 0x201e, 0x2026, 0x2020, 0x2021,
    0x02c6, 0x2030, 0x0160, 0x2039, 0x0152, 0x008d, 0x017d, 0x008f,
    0x0090, 0x2018, 0x2019, 0x201c, 0x201d, 0x2022, 0x2013, 0x2014,
    0x02dc, 0x2122, 0x0161, 0x203a, 0x0153, 0x009d, 0x017e, 0x0178]

def characterOfByte (byte : UInt8) : Char :=
  let number := byte.toNat
  if 0x80 ≤ number ∧ number < 0xa0 then
    Char.ofNat (codePageRow.getD (number - 0x80) number)
  else Char.ofNat number

end Toolpath.Text
