import Toolpath.Number.Decimal

/-!
# Numerals

A numeral is a number as it is spelled in a document: a sign, digits with an
optional fraction, and an optional exponent.  Its exact value is known, and
the double nearest to it is computed only when one is asked for, because a
numeral may be out of range where nobody needs its value.
-/

namespace Toolpath.Number

/-- The digits of a natural number, `0` for zero. -/
def digitsOf (value : Nat) : List Char := Nat.toDigits 10 value

def valueOfDigits (digits : List Char) : Nat := Nat.ofDigitChars 10 digits 0

@[simp]
theorem valueOfDigits_digitsOf (value : Nat) :
    valueOfDigits (digitsOf value) = value := by
  simp [valueOfDigits, digitsOf]

/-- A number as it is spelled. -/
structure Numeral where
  negative : Bool
  /-- The digits before the point. -/
  whole : List Char
  /-- The digits after the point, when there is a point. -/
  fraction : Option (List Char)
  /-- The power of ten, when one is written. -/
  exponent : Option Int
deriving DecidableEq, Repr, Inhabited

namespace Numeral

def decimal (numeral : Numeral) : Decimal :=
  let fraction := numeral.fraction.getD []
  ⟨valueOfDigits (numeral.whole ++ fraction),
    numeral.exponent.getD 0 - fraction.length⟩

/-- The nearest double, infinite when the numeral is too large. -/
def toFloat (numeral : Numeral) : Float :=
  numeral.decimal.nearest numeral.negative

/-- The nearest double of a numeral that is in range. -/
def toFinite? (numeral : Numeral) : Option Float :=
  if numeral.decimal.nearestBits < infinityBits then some numeral.toFloat
  else none

/-- A natural number as a numeral. -/
def ofNat (value : Nat) : Numeral := ⟨false, digitsOf value, none, none⟩

/-- The value of a numeral without minus, point and exponent. -/
def toNat? : Numeral → Option Nat
  | ⟨false, whole, none, none⟩ => some (valueOfDigits whole)
  | _ => none

@[simp]
theorem toNat?_ofNat (value : Nat) : (ofNat value).toNat? = some value := by
  simp [ofNat, toNat?]

/-- The point and the digits after it. -/
def fractionCharacters : Option (List Char) → List Char
  | some digits => '.' :: digits
  | none => []

/-- The exponent, always with a sign. -/
def exponentCharacters : Option Int → List Char
  | some exponent =>
    'e' :: (if exponent < 0 then '-' else '+') :: digitsOf exponent.natAbs
  | none => []

/-- A text with a minus before it where one is due. -/
def signCharacters : Bool → List Char
  | true => ['-']
  | false => []

def characters (numeral : Numeral) : List Char :=
  signCharacters numeral.negative ++ numeral.whole
    ++ fractionCharacters numeral.fraction
    ++ exponentCharacters numeral.exponent

end Numeral

end Toolpath.Number
