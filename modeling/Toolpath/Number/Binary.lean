/-!
# Doubles as whole numbers of quanta

Every finite double is a whole multiple of `2 ^ -1074`, the smallest positive
double.  This module calls that unit a quantum.  It reads a double as a sign
and a number of quanta, and it rounds an arbitrary quotient of quanta to the
nearest double, a half going to the even neighbour.

Magnitudes are handled through their bit patterns: the pattern of a magnitude
is a natural number below `infinityBits`, larger magnitudes have larger
patterns, and the first pattern past the finite ones denotes infinity.
-/

namespace Toolpath.Number

/-- The pattern of a double's magnitude has this many fraction bits. -/
def fractionBits : Nat := 52

/-- One is `2 ^ quantumExponent` quanta.  It does not unfold on its own, so that
the large power is evaluated only when a number is computed. -/
@[irreducible]
def quantumExponent : Nat := 1074

/-- The pattern of the infinite magnitude; patterns below it are finite. -/
def infinityBits : Nat := 0x7ff0000000000000

/-- The bit that distinguishes negative doubles. -/
def signBit : Nat := 0x8000000000000000

/-- What a double denotes, its magnitude kept as a bit pattern. -/
inductive Reading where
  | notANumber
  | infinite (negative : Bool)
  | finite (negative : Bool) (magnitudeBits : Nat)
deriving DecidableEq, Repr

/-- Splits a double into its sign and its magnitude. -/
def Reading.ofFloat (value : Float) : Reading :=
  let bits := value.toBits.toNat
  let negative := decide (signBit ≤ bits)
  let magnitude := bits % signBit
  if magnitude < infinityBits then .finite negative magnitude
  else if magnitude = infinityBits then .infinite negative
  else .notANumber

/-- The double with the given sign and magnitude pattern. -/
def signedFloat (negative : Bool) (magnitudeBits : Nat) : Float :=
  Float.ofBits
    (UInt64.ofNat
      (if negative then magnitudeBits + signBit else magnitudeBits))

/-- The number of quanta that a finite magnitude pattern stands for. -/
def quantaOfBits (magnitudeBits : Nat) : Nat :=
  let binade := Nat.pow 2 fractionBits
  let exponentField := magnitudeBits / binade
  let fraction := magnitudeBits % binade
  if exponentField = 0 then fraction
  else (fraction + binade) * Nat.pow 2 (exponentField - 1)

/-- The whole number nearest to a quotient; a half goes to the even one. -/
def roundHalfEven (numerator denominator : Nat) : Nat :=
  let quotient := numerator / denominator
  let remainder := numerator % denominator
  if 2 * remainder < denominator then quotient
  else if denominator < 2 * remainder then quotient + 1
  else if quotient % 2 = 0 then quotient
  else quotient + 1

/--
The pattern of the double nearest to a quotient of quanta.

Below `2 ^ 53` quanta every whole number is a double.  Above, the doubles of
one binade are `2 ^ shift` quanta apart, and the pattern counts binades and
steps alike, so that a step past the end of a binade lands in the next one.
The pattern is not below `infinityBits` exactly when the quotient overflows.
-/
def bitsOfQuotient (numerator denominator : Nat) : Nat :=
  let shift := (numerator / denominator).log2 - fractionBits
  shift * Nat.pow 2 fractionBits
    + roundHalfEven numerator (denominator * Nat.pow 2 shift)

end Toolpath.Number
