import Toolpath.Number.Decimal

/-!
# The fewest digits that read back

`shortest` finds, for a finite magnitude, the decimal with the fewest digits
whose nearest double is that magnitude, and of two with equally many digits
the nearer one; a `Tie` decides between equally near ones.  For a count of
digits only the two neighbours of the value on the grid of that many digits
need to be tried: when any point of a grid reads back to a value, so does one
of the value's neighbours on that grid.
-/

namespace Toolpath.Number

/-- Written with this many digits, every double reads back. -/
def sufficientDigits : Nat := 17

/--
The power of ten just above a positive magnitude: `10 ^ (place - 1)` does not
exceed it and `10 ^ place` does.
-/
def decimalPlace (magnitudeBits : Nat) : Int :=
  let places : Nat := 324
  let scaled :=
    quantaOfBits magnitudeBits * Nat.pow 10 places
      / Nat.pow 2 quantumExponent
  (Nat.toDigits 10 scaled).length - places

/-- Which of two equally near decimals is chosen. -/
inductive Tie where
  /-- The one whose last digit is even. -/
  | toEven
  /-- The larger one. -/
  | up
deriving DecidableEq, Repr

/--
The two multiples of `10 ^ exponent` around a magnitude, the preferred one
first.
-/
def neighbours
    (tie : Tie)
    (magnitudeBits : Nat)
    (exponent : Int) :
    List Decimal :=
  let quanta := quantaOfBits magnitudeBits
  let numerator := quanta * Nat.pow 10 (-exponent).toNat
  let denominator :=
    Nat.pow 2 quantumExponent * Nat.pow 10 exponent.toNat
  let below := numerator / denominator
  let remainder := numerator % denominator
  let takeBelow :=
    2 * remainder < denominator
      ∨ (2 * remainder = denominator ∧ tie = .toEven ∧ below % 2 = 0)
  if takeBelow then
    [⟨below, exponent⟩, ⟨below + 1, exponent⟩]
  else
    [⟨below + 1, exponent⟩, ⟨below, exponent⟩]

/-- A magnitude written out to its last digit. -/
def exactDecimal (magnitudeBits : Nat) : Decimal :=
  ⟨quantaOfBits magnitudeBits * Nat.pow 5 quantumExponent, -quantumExponent⟩

/--
Searches the grids from `count` digits upward, at most `tries` of them, for a
decimal that reads back; the exact value stands in when there is none.
-/
def shortestFrom
    (tie : Tie)
    (magnitudeBits : Nat)
    (place : Int)
    (count : Nat) :
    Nat → Decimal
  | 0 => exactDecimal magnitudeBits
  | tries + 1 =>
    match ((neighbours tie magnitudeBits (place - count)).map
        Decimal.trim).find? (·.nearestBits = magnitudeBits) with
    | some found => found
    | none => shortestFrom tie magnitudeBits place (count + 1) tries

/-- The shortest decimal that reads back to a finite magnitude. -/
def shortest
    (tie : Tie)
    (magnitudeBits : Nat) :
    Decimal :=
  if magnitudeBits = 0 then ⟨0, 0⟩
  else
    shortestFrom tie magnitudeBits (decimalPlace magnitudeBits) 1
      sufficientDigits

/-- The decimal that `shortest` chooses reads back to its magnitude. -/
theorem nearestBits_shortestFrom
    (tie : Tie)
    (magnitudeBits : Nat)
    (place : Int)
    (count tries : Nat)
    (exact_reads_back :
      (exactDecimal magnitudeBits).nearestBits = magnitudeBits) :
    (shortestFrom tie magnitudeBits place count tries).nearestBits
      = magnitudeBits := by
  induction tries generalizing count with
  | zero => rw [shortestFrom]; exact exact_reads_back
  | succ tries induction_step =>
    unfold shortestFrom
    split
    next found search =>
      simpa using List.find?_some search
    next => exact induction_step (count + 1)

end Toolpath.Number
