import Toolpath.Number.Binary

/-!
# Decimal numbers and the doubles nearest to them

A `Decimal` is a whole number of digits together with a power of ten.  The
double nearest to one is found in exact arithmetic.
-/

namespace Toolpath.Number

/-- The unsigned number `digits * 10 ^ exponent`. -/
structure Decimal where
  digits : Nat
  exponent : Int
deriving DecidableEq, Repr, Inhabited

namespace Decimal

/-- A decimal as a quotient of quanta. -/
def quanta (decimal : Decimal) : Nat × Nat :=
  let scaled := decimal.digits * Nat.pow 2 quantumExponent
  if 0 ≤ decimal.exponent then
    (scaled * Nat.pow 10 decimal.exponent.toNat, 1)
  else (scaled, Nat.pow 10 (-decimal.exponent).toNat)

/-- No double reaches a whole number times this power of ten. -/
def overflowExponent : Int := 400

/--
The pattern of the double nearest to a decimal, `infinityBits` when there is
none so large.

Decimals that are far out of range are settled by their exponent alone: a
number of digits is below `10 ^ (log2 digits + 1)`.
-/
def nearestBits (decimal : Decimal) : Nat :=
  if decimal.digits = 0 then 0
  else if overflowExponent < decimal.exponent then infinityBits
  else if decimal.exponent + (decimal.digits.log2 + 1) < -overflowExponent then
    0
  else
    min infinityBits (bitsOfQuotient decimal.quanta.1 decimal.quanta.2)

/-- The double nearest to a signed decimal; it is infinite on overflow. -/
def nearest
    (negative : Bool)
    (decimal : Decimal) :
    Float :=
  signedFloat negative decimal.nearestBits

/-- Moves the zeros at the end of the digits into the exponent. -/
def trim (decimal : Decimal) : Decimal :=
  if decimal.digits = 0 then ⟨0, 0⟩
  else if decimal.digits % 10 = 0 then
    trim ⟨decimal.digits / 10, decimal.exponent + 1⟩
  else decimal
termination_by decimal.digits
decreasing_by omega

end Decimal

end Toolpath.Number
