import Toolpath.Toml.Value
import Toolpath.Number.Scan

/-!
# Numbers, dates and times of TOML

Digits may be grouped by single underscores.  Dates and times are checked
against the calendar and the clock, but what they name is not kept.
-/

namespace Toolpath.Toml

open Number

/-- Reads further digits, each with at most one underscore before it. -/
def spanGrouped
    (isDigit : Char → Bool) :
    List Char → List Char × List Char
  | '_' :: digit :: rest =>
    if isDigit digit then
      let (digits, rest) := spanGrouped isDigit rest
      (digit :: digits, rest)
    else ([], '_' :: digit :: rest)
  | digit :: rest =>
    if isDigit digit then
      let (digits, rest) := spanGrouped isDigit rest
      (digit :: digits, rest)
    else ([], digit :: rest)
  | [] => ([], [])

/-- Reads a row of at least one digit. -/
def readGrouped?
    (isDigit : Char → Bool) :
    List Char → Option (List Char × List Char)
  | digit :: rest =>
    if isDigit digit then
      let (digits, rest) := spanGrouped isDigit rest
      some (digit :: digits, rest)
    else none
  | [] => none

/-- Reads the digits of a decimal whole number: a zero stands alone. -/
def readWhole? (text : List Char) : Option (List Char × List Char) :=
  match text with
  | '0' :: rest => some (['0'], rest)
  | _ => readGrouped? Char.isDigit text

/-- The digits of a base up to sixteen. -/
def isDigitOf (base : Nat) (character : Char) : Bool :=
  let code := character.toNat
  (0x30 ≤ code && code < 0x30 + min base 10)
    || (0x61 ≤ code && code < 0x61 + (base - 10))
    || (0x41 ≤ code && code < 0x41 + (base - 10))

/-- The value of a digit of a base up to sixteen. -/
def digitValue (character : Char) : Nat :=
  let code := character.toNat
  if 0x61 ≤ code then code - 0x57
  else if 0x41 ≤ code then code - 0x37
  else code - 0x30

/-- Reads the digits of a whole number in a base other than ten. -/
def readBased?
    (base : Nat)
    (text : List Char) :
    Option (Int × List Char) := do
  let (digits, rest) ← readGrouped? (isDigitOf base) text
  let value := digits.foldl (fun value digit => base * value + digitValue digit)
    0
  return ((value : Int), rest)

/-- Whether an integer has 64 bits. -/
def isWord (value : Int) : Bool :=
  -9223372036854775808 ≤ value && value ≤ 9223372036854775807

/-- Reads a decimal integer with an optional sign. -/
def readDecimal? (text : List Char) : Option (Int × List Char) := do
  let (negative, unsigned) := readSign text
  let (digits, rest) ← readWhole? unsigned
  let magnitude : Int := valueOfDigits digits
  return (if negative then -magnitude else magnitude, rest)

/-- Reads an integer of any size, with the mark of its base before it. -/
def readUnbounded? (text : List Char) : Option (Int × List Char) :=
  match text with
  | '0' :: 'x' :: rest => readBased? 16 rest
  | '0' :: 'o' :: rest => readBased? 8 rest
  | '0' :: 'b' :: rest => readBased? 2 rest
  | _ => readDecimal? text

def readInteger? (text : List Char) : Option (Int × List Char) :=
  match readUnbounded? text with
  | some (value, rest) => if isWord value then some (value, rest) else none
  | none => none

/-- Reads an exponent, which may be missing. -/
def readGroupedExponent? :
    List Char → Option (Option Int × List Char)
  | mark :: rest =>
    if mark = 'e' ∨ mark = 'E' then do
      let (negative, unsigned) := readSign rest
      let (digits, rest) ← readGrouped? Char.isDigit unsigned
      let magnitude : Int := valueOfDigits digits
      return (some (if negative then -magnitude else magnitude), rest)
    else some (none, mark :: rest)
  | [] => some (none, [])

/-- Reads a fraction, which may be missing. -/
def readGroupedFraction? :
    List Char → Option (Option (List Char) × List Char)
  | '.' :: rest =>
    (readGrouped? Char.isDigit rest).map
      fun (digits, rest) => (some digits, rest)
  | text => some (none, text)

/-- Reads a number with a fraction or an exponent. -/
def readNumeral? (text : List Char) : Option (Numeral × List Char) := do
  let (negative, unsigned) := readSign text
  let (whole, rest) ← readWhole? unsigned
  let (fraction, rest) ← readGroupedFraction? rest
  let (exponent, rest) ← readGroupedExponent? rest
  if fraction.isNone ∧ exponent.isNone then none
  else some (⟨negative, whole, fraction, exponent⟩, rest)

/-- Reads a double: a numeral that is not too large, or a word. -/
def readFloat? (text : List Char) : Option (Float × List Char) :=
  match readNumeral? text with
  | some (numeral, rest) =>
    if numeral.negative ∨ numeral.toFinite?.isSome then
      some (numeral.toFloat, rest)
    else none
  | none =>
    let (negative, unsigned) := readSign text
    match unsigned with
    | 'i' :: 'n' :: 'f' :: rest => some (infinity negative, rest)
    | 'n' :: 'a' :: 'n' :: rest => some (notANumber, rest)
    | _ => none

/-- Reads the given number of digits. -/
def readFixed?
    (count : Nat)
    (text : List Char) :
    Option (Nat × List Char) :=
  let digits := text.take count
  if digits.length = count ∧ digits.all Char.isDigit then
    some (valueOfDigits digits, text.drop count)
  else none

/-- Reads the given character. -/
def readMark?
    (mark : Char) :
    List Char → Option (List Char)
  | first :: rest => if first = mark then some rest else none
  | [] => none

def daysOfMonth (year month : Nat) : Nat :=
  if month = 2 then
    if year % 4 = 0 ∧ (year % 100 ≠ 0 ∨ year % 400 = 0) then 29 else 28
  else if month = 4 ∨ month = 6 ∨ month = 9 ∨ month = 11 then 30
  else 31

def readDate? (text : List Char) : Option (List Char) := do
  let (year, rest) ← readFixed? 4 text
  let rest ← readMark? '-' rest
  let (month, rest) ← readFixed? 2 rest
  let rest ← readMark? '-' rest
  let (day, rest) ← readFixed? 2 rest
  if 1 ≤ month ∧ month ≤ 12 ∧ 1 ≤ day ∧ day ≤ daysOfMonth year month then
    return rest
  else none

def readHourMinute? (text : List Char) : Option (List Char) := do
  let (hour, rest) ← readFixed? 2 text
  let rest ← readMark? ':' rest
  let (minute, rest) ← readFixed? 2 rest
  if hour ≤ 23 ∧ minute ≤ 59 then return rest else none

/-- Reads a time of day; a minute may have a leap second. -/
def readTime? (text : List Char) : Option (List Char) := do
  let rest ← readHourMinute? text
  let rest ← readMark? ':' rest
  let (second, rest) ← readFixed? 2 rest
  if second ≤ 60 then
    match rest with
    | '.' :: fraction =>
      match spanDigits fraction with
      | ([], _) => return rest
      | (_, rest) => return rest
    | _ => return rest
  else none

/-- Reads the distance from universal time, which may be missing. -/
def readOffset (text : List Char) : List Char :=
  match text with
  | 'Z' :: rest => rest
  | 'z' :: rest => rest
  | '+' :: rest => (readHourMinute? rest).getD text
  | '-' :: rest => (readHourMinute? rest).getD text
  | _ => text

def readDateTime? (text : List Char) : Option (List Char) :=
  match readDate? text with
  | some rest =>
    match rest with
    | delimiter :: afterDelimiter =>
      if delimiter = 'T' ∨ delimiter = 't' ∨ delimiter = ' ' then
        match readTime? afterDelimiter with
        | some rest => some (readOffset rest)
        | none => some rest
      else some rest
    | [] => some []
  | none => readTime? text

/-- Reads a value that is neither a text nor made up of other values. -/
def readScalar? (text : List Char) : Option (Value × List Char) :=
  match text with
  | 't' :: 'r' :: 'u' :: 'e' :: rest => some (.bool true, rest)
  | 'f' :: 'a' :: 'l' :: 's' :: 'e' :: rest => some (.bool false, rest)
  | _ =>
    match readDateTime? text with
    | some rest => some (.dateTime, rest)
    | none =>
      match readFloat? text with
      | some (value, rest) => some (.float value, rest)
      | none => do
        let (value, rest) ← readInteger? text
        return (.integer value, rest)

end Toolpath.Toml
