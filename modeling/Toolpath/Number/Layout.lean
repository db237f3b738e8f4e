import Toolpath.Number.Shortest
import Toolpath.Number.Numeral

/-!
# Layouts of numbers

A number's numeral is found in two steps: `shortest` chooses the digits, and a
`Layout` says which way a tie between digits goes, where the point is put and
when an exponent is written.
-/

namespace Toolpath.Number

/-- How a double is spelled. -/
structure Layout where
  /-- Which of two equally short and equally near rows of digits is taken. -/
  tie : Tie
  /--
  Whether the number `d.ddd * 10 ^ scale` is written positionally; otherwise
  it gets an exponent.
  -/
  positional : (scale : Int) → Bool
  /-- Whether a whole number written positionally ends in `.0`. -/
  wholeHasFraction : Bool

namespace Layout

/-- Messages write every number positionally and whole numbers bare. -/
def message : Layout where
  tie := .up
  positional := fun _ => true
  wholeHasFraction := false

/-- TOML documents write every number positionally, with a fraction. -/
def toml : Layout where
  tie := .up
  positional := fun _ => true
  wholeHasFraction := true

/-- JSON documents write numbers from `1e-5` up to `1e16` positionally. -/
def json : Layout where
  tie := .toEven
  positional := fun scale => -5 ≤ scale ∧ scale < 16
  wholeHasFraction := true

end Layout

/-- A row of zeros. -/
def zeros (count : Nat) : List Char := List.replicate count '0'

/-- Spells `digits * 10 ^ exponent` without an exponent. -/
def positionalNumeral
    (wholeHasFraction negative : Bool)
    (decimal : Decimal) :
    Numeral :=
  let digits := digitsOf decimal.digits
  if 0 ≤ decimal.exponent then
    { negative
      whole := digits ++ zeros decimal.exponent.toNat
      fraction := if wholeHasFraction then some ['0'] else none
      exponent := none }
  else
    let places := (-decimal.exponent).toNat
    if places < digits.length then
      { negative
        whole := digits.take (digits.length - places)
        fraction := some (digits.drop (digits.length - places))
        exponent := none }
    else
      { negative
        whole := ['0']
        fraction := some (zeros (places - digits.length) ++ digits)
        exponent := none }

/-- Spells a decimal with one digit before the point and an exponent. -/
def scientificNumeral
    (negative : Bool)
    (scale : Int)
    (decimal : Decimal) :
    Numeral :=
  let digits := digitsOf decimal.digits
  let further := digits.drop 1
  { negative
    whole := digits.take 1
    fraction := if further.isEmpty then none else some further
    exponent := some scale }

/-- The scale of a decimal written as `d.ddd * 10 ^ scale`; zero has none. -/
def scaleOf (decimal : Decimal) : Int :=
  if decimal.digits = 0 then 0
  else decimal.exponent + (digitsOf decimal.digits).length - 1

namespace Layout

/-- Spells a signed decimal. -/
def numeral
    (layout : Layout)
    (negative : Bool)
    (decimal : Decimal) :
    Numeral :=
  if layout.positional (scaleOf decimal) then
    positionalNumeral layout.wholeHasFraction negative decimal
  else scientificNumeral negative (scaleOf decimal) decimal

/-- Spells a finite double. -/
def numeral?
    (layout : Layout)
    (value : Float) :
    Option Numeral :=
  match Reading.ofFloat value with
  | .finite negative magnitudeBits =>
    some (layout.numeral negative (shortest layout.tie magnitudeBits))
  | _ => none

/-- A double as text; the sign of zero is kept and that of NaN is not. -/
def characters
    (layout : Layout)
    (value : Float) :
    List Char :=
  match Reading.ofFloat value with
  | .notANumber => ['N', 'a', 'N']
  | .infinite negative =>
    Numeral.signCharacters negative ++ ['i', 'n', 'f']
  | .finite negative magnitudeBits =>
    (layout.numeral negative
      (shortest layout.tie magnitudeBits)).characters

def text
    (layout : Layout)
    (value : Float) :
    String :=
  String.ofList (layout.characters value)

end Layout

end Toolpath.Number
