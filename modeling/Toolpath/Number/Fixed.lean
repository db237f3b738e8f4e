import Toolpath.Number.Numeral

/-!
# Two decimal places

Coordinates, feeds and labels show a double rounded to two decimal places.
The rounding is that of the exact value, a half going to the even hundredth,
and the sign stays even when everything after it rounds to zero.
-/

namespace Toolpath.Number

def hundredths (magnitudeBits : Nat) : Nat :=
  roundHalfEven (quantaOfBits magnitudeBits * 100)
    (Nat.pow 2 quantumExponent)

/-- A number of hundredths as a numeral with two decimal places. -/
def hundredthsNumeral
    (negative : Bool)
    (value : Nat) :
    Numeral where
  negative := negative
  whole := digitsOf (value / 100)
  fraction :=
    some [Nat.digitChar (value % 100 / 10), Nat.digitChar (value % 10)]
  exponent := none

/-- A double with two decimal places, `NaN`, `inf` or `-inf`. -/
def fixedCharacters (value : Float) : List Char :=
  match Reading.ofFloat value with
  | .notANumber => ['N', 'a', 'N']
  | .infinite negative =>
    Numeral.signCharacters negative ++ ['i', 'n', 'f']
  | .finite negative magnitudeBits =>
    (hundredthsNumeral negative (hundredths magnitudeBits)).characters

/-- A double with two decimal places, as text. -/
def fixedText (value : Float) : String :=
  String.ofList (fixedCharacters value)

end Toolpath.Number
