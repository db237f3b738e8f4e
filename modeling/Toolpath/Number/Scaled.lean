import Toolpath.Number.Numeral

/-!
# Scaled numerals

A numeral can be evaluated with one word and the arithmetic of doubles: its
digits are gathered in a word, the word becomes a double, and the double is
multiplied or divided by a power of ten.  Every step rounds, so that the
result may differ from the double nearest to the numeral in its last places.
JSON documents are read in this way.
-/

namespace Toolpath.Number

/-- A word holds the numbers below this bound. -/
def wordBound : Nat := 0x10000000000000000

/-- Appends digits to a word up to the first that does not fit, and counts
those that are left over. -/
def gatherDigits (word : Nat) : List Char → Nat × Nat
  | [] => (word, 0)
  | digit :: digits =>
    let longer := 10 * word + (digit.toNat - '0'.toNat)
    if longer < wordBound then gatherDigits longer digits
    else (word, digits.length + 1)

/--
The digits of a numeral that fit into a word, with a power of ten.  Digits
left over before the point count as zeros, digits left over after it do not
count at all.
-/
def Numeral.gathered (numeral : Numeral) : Decimal :=
  let fraction := numeral.fraction.getD []
  let whole := gatherDigits 0 numeral.whole
  let word := gatherDigits whole.1 fraction
  ⟨word.1,
    numeral.exponent.getD 0 + whole.2 - (fraction.length - word.2 : Nat)⟩

/-- The power of ten with this exponent is the largest one below infinity. -/
def lastPower : Nat := 308

/-- The double nearest to a power of ten. -/
def powerOfTen (exponent : Nat) : Float :=
  Decimal.nearest false ⟨1, exponent⟩

/--
Multiplies a magnitude by a power of ten, or divides it by one.  Powers with
a double take a single step.  A larger divisor takes several, until nothing
is left of the magnitude, and a larger factor is refused, as is an infinite
result.
-/
def scale? (magnitude : Float) (exponent : Int) : Option Float :=
  if 0 ≤ exponent then
    if exponent ≤ lastPower then
      let product := magnitude * powerOfTen exponent.toNat
      if product.isInf then none else some product
    else if magnitude == 0.0 then some magnitude
    else none
  else if -exponent ≤ lastPower then
    some (magnitude / powerOfTen (-exponent).toNat)
  else if magnitude == 0.0 then some magnitude
  else scale? (magnitude / powerOfTen lastPower) (exponent + lastPower)
termination_by (-exponent).toNat
decreasing_by
  simp only [lastPower] at *
  omega

/-- The value of a numeral by scaling, if it is in range. -/
def Numeral.toScaled? (numeral : Numeral) : Option Float :=
  let gathered := numeral.gathered
  let magnitude := Decimal.nearest false ⟨gathered.digits, 0⟩
  (scale? magnitude gathered.exponent).map fun value =>
    if numeral.negative then -value else value

end Toolpath.Number
