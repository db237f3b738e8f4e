import Toolpath.Number.Numeral

/-!
# Reading numbers from text

Pieces of numerals that the document formats share, and the reading of a
number that stands on its own.
-/

namespace Toolpath.Number

/-- Splits the leading digits off a text. -/
def spanDigits (text : List Char) : List Char × List Char :=
  (text.takeWhile Char.isDigit, text.dropWhile Char.isDigit)

/-- Reads an optional sign: whether it is a minus, and the rest. -/
def readSign : List Char → Bool × List Char
  | '-' :: rest => (true, rest)
  | '+' :: rest => (false, rest)
  | text => (false, text)

/-- Reads the digits of an exponent, with an optional sign before them. -/
def readExponent? (text : List Char) : Option (Int × List Char) :=
  let (negative, unsigned) := readSign text
  match spanDigits unsigned with
  | ([], _) => none
  | (digits, rest) =>
    let value : Int := valueOfDigits digits
    some (if negative then -value else value, rest)

def readMarkedExponent? : List Char → Option (Option Int × List Char)
  | [] => some (none, [])
  | mark :: rest =>
    if mark = 'e' ∨ mark = 'E' then
      (readExponent? rest).map fun (exponent, rest) => (some exponent, rest)
    else some (none, mark :: rest)

/--
Reads a numeral that stands on its own: an optional sign, digits with an
optional point among, before or after them, and an optional exponent.
-/
def readNumeral? (text : List Char) : Option Numeral :=
  let (negative, unsigned) := readSign text
  let (whole, afterWhole) := spanDigits unsigned
  let (fraction, afterFraction) :=
    match afterWhole with
    | '.' :: rest => (some (spanDigits rest).1, (spanDigits rest).2)
    | rest => (none, rest)
  if whole.isEmpty ∧ (fraction.getD []).isEmpty then none
  else
    match readMarkedExponent? afterFraction with
    | some (exponent, []) => some ⟨negative, whole, fraction, exponent⟩
    | _ => none

/-- Reads an integer that stands on its own: digits with an optional sign. -/
def readInteger? (text : List Char) : Option Int :=
  let (negative, digits) := readSign text
  if digits ≠ [] ∧ digits.all Char.isDigit then
    let value : Int := valueOfDigits digits
    some (if negative then -value else value)
  else none

/-- The infinite double of the given sign. -/
def infinity (negative : Bool) : Float := signedFloat negative infinityBits

/-- The double that stands for no number. -/
def notANumber : Float := Float.ofBits 0x7ff8000000000000

/--
Reads a double that stands on its own: a numeral, or in letters of either case
an infinity or NaN with an optional sign.
-/
def readFloat? (text : List Char) : Option Float :=
  let (negative, unsigned) := readSign text
  match String.ofList (unsigned.map Char.toLower) with
  | "inf" => some (infinity negative)
  | "infinity" => some (infinity negative)
  | "nan" => some notANumber
  | _ => (readNumeral? text).map Numeral.toFloat

end Toolpath.Number
