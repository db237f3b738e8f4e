import Mathlib
import Toolpath.Proofs.DoublePlaces

/-!
# Rounded numbers

A mantissa with an exponent is rounded to the number at the place that the
nearest double to so many quanta has: its digits are shifted out to the right,
with two digits that remember what has been lost, and the mantissa that is left
is rounded half to even.  A mantissa that becomes one digit too long by that
loses a zero, and the number keeps its place.  Rounding is monotone.
-/

namespace Toolpath.Number

open Float.Model (Format UnpackedFloat totalExponent)
open Float.Model.UnpackedFloat

/-! ## Rounding keeps the order -/

theorem le_roundHalfEven (numerator denominator : Nat) :
    numerator / denominator ≤ roundHalfEven numerator denominator := by
  grind [roundHalfEven]

theorem roundHalfEven_le (numerator denominator : Nat) :
    roundHalfEven numerator denominator ≤ numerator / denominator + 1 := by
  grind [roundHalfEven]

theorem div_le_div_of_mul_le_mul
    {numerator denominator otherNumerator otherDenominator : Nat}
    (positive : 0 < denominator)
    (otherPositive : 0 < otherDenominator)
    (below :
      numerator * otherDenominator ≤ otherNumerator * denominator) :
    numerator / denominator ≤ otherNumerator / otherDenominator := by
  rw [Nat.le_div_iff_mul_le otherPositive]
  refine Nat.le_of_mul_le_mul_right ?_ positive
  calc
    numerator / denominator * otherDenominator * denominator =
        numerator / denominator * denominator * otherDenominator :=
      Nat.mul_right_comm ..
    _ ≤ numerator * otherDenominator :=
      Nat.mul_le_mul_right _ (Nat.div_mul_le_self ..)
    _ ≤ otherNumerator * denominator := below

/-- A larger quotient is rounded to a number that is at least as large. -/
theorem roundHalfEven_mono
    {numerator denominator otherNumerator otherDenominator : Nat}
    (positive : 0 < denominator)
    (otherPositive : 0 < otherDenominator)
    (below :
      numerator * otherDenominator ≤ otherNumerator * denominator) :
    roundHalfEven numerator denominator ≤
      roundHalfEven otherNumerator otherDenominator := by
  have parts := Nat.div_add_mod numerator denominator
  have otherParts := Nat.div_add_mod otherNumerator otherDenominator
  rcases (div_le_div_of_mul_le_mul positive otherPositive below).lt_or_eq
    with less | same
  · exact (roundHalfEven_le ..).trans (Nat.le_trans less (le_roundHalfEven ..))
  · -- Between equal quotients the remainders decide.
    have remainders : numerator % denominator * otherDenominator ≤
        otherNumerator % otherDenominator * denominator := by
      rw [← parts, ← otherParts, ← same] at below
      nlinarith
    have low : 2 * (otherNumerator % otherDenominator) < otherDenominator →
        2 * (numerator % denominator) < denominator := by
      intro small
      by_contra large
      nlinarith
    have high : denominator < 2 * (numerator % denominator) →
        otherDenominator < 2 * (otherNumerator % otherDenominator) := by
      intro large
      by_contra small
      nlinarith
    simp only [roundHalfEven, same]
    grind

/-- The steps of a binade that a quotient is rounded to are at most twice as
many as there are, and no fewer than there are outside the first binade. -/
theorem roundHalfEven_binade
    (numerator denominator shift : Nat)
    (shift_eq :
      shift = (numerator / denominator).log2 - fractionBits) :
    roundHalfEven numerator (denominator * 2 ^ shift) ≤
        2 ^ (fractionBits + 1) ∧
      (shift ≠ 0 →
        2 ^ fractionBits ≤
          roundHalfEven numerator (denominator * 2 ^ shift)) := by
  have upper := roundHalfEven_le numerator (denominator * 2 ^ shift)
  have lower := le_roundHalfEven numerator (denominator * 2 ^ shift)
  rw [← Nat.div_div_eq_div_mul] at upper lower
  constructor
  · refine upper.trans (Nat.succ_le_of_lt ?_)
    rw [Nat.div_lt_iff_lt_mul (Nat.two_pow_pos shift), ← Nat.pow_add]
    exact Nat.lt_log2_self.trans_le
      (Nat.pow_le_pow_right Nat.two_pos (by omega))
  · intro later
    refine Nat.le_trans ?_ lower
    have nonzero : numerator / denominator ≠ 0 := by
      intro zero
      rw [zero] at shift_eq
      exact later (by simpa using shift_eq)
    rw [Nat.le_div_iff_mul_le (Nat.two_pow_pos shift), ← Nat.pow_add]
    have exponents : fractionBits + shift =
        (numerator / denominator).log2 := by omega
    rw [exponents]
    exact Nat.log2_self_le nonzero

/-- A larger quotient of quanta has a larger place. -/
theorem bitsOfQuotient_mono
    {numerator denominator otherNumerator otherDenominator : Nat}
    (positive : 0 < denominator)
    (otherPositive : 0 < otherDenominator)
    (below :
      numerator * otherDenominator ≤ otherNumerator * denominator) :
    bitsOfQuotient numerator denominator ≤
      bitsOfQuotient otherNumerator otherDenominator := by
  have quotients := div_le_div_of_mul_le_mul positive otherPositive below
  have logs : (numerator / denominator).log2 ≤
      (otherNumerator / otherDenominator).log2 := by
    rw [Nat.log2_eq_log_two, Nat.log2_eq_log_two]
    exact Nat.log_mono_right quotients
  simp only [bitsOfQuotient, Nat.pow_eq]
  generalize shift_eq : (numerator / denominator).log2 - fractionBits = shift
  generalize other_eq :
    (otherNumerator / otherDenominator).log2 - fractionBits = other
  have shifts : shift ≤ other := by omega
  rcases shifts.lt_or_eq with less | rfl
  · have upper :=
      (roundHalfEven_binade numerator denominator shift shift_eq.symm).1
    have lower :=
      (roundHalfEven_binade otherNumerator otherDenominator other
        other_eq.symm).2 (by omega)
    rw [pow_succ] at upper
    have binades : (shift + 1) * 2 ^ fractionBits ≤
        other * 2 ^ fractionBits :=
      Nat.mul_le_mul_right _ less
    rw [Nat.succ_mul] at binades
    omega
  · refine Nat.add_le_add_left ?_ _
    refine roundHalfEven_mono (Nat.mul_pos positive (Nat.two_pow_pos shift))
      (Nat.mul_pos otherPositive (Nat.two_pow_pos shift)) ?_
    rw [← Nat.mul_assoc, ← Nat.mul_assoc]
    exact Nat.mul_le_mul_right _ below

/-! ## Rounded mantissas -/

/-- The quotient of a mantissa, with two digits for what is left: whether it is
half of the unit or more, and whether it is neither nothing nor a half. -/
def extended (mantissa unit : Nat) : ExtendedMantissa :=
  { mantissa := mantissa / unit
    roundBit := decide (unit ≤ 2 * (mantissa % unit))
    stickyBit :=
      decide (mantissa % unit ≠ 0 ∧ 2 * (mantissa % unit) ≠ unit) }

theorem shiftRightOne_extended
    (mantissa : Nat)
    {unit : Nat}
    (positive : 0 < unit) :
    (extended mantissa unit).shiftRightOne = extended mantissa (unit * 2) := by
  have rest_lt := Nat.mod_lt mantissa positive
  have rest := Nat.mod_mul (a := unit) (b := 2) (x := mantissa)
  have digit := Nat.mod_two_eq_zero_or_one (mantissa / unit)
  simp only [extended, ExtendedMantissa.shiftRightOne,
    Nat.div_div_eq_div_mul, ExtendedMantissa.mk.injEq, true_and, rest]
  rcases digit with even | odd
  · simp only [even]
    grind
  · simp only [odd]
    grind

theorem shiftRight_ofMantissa (mantissa count : Nat) :
    (ExtendedMantissa.ofMantissaAndAccuracy mantissa .exact >>> count) =
      extended mantissa (2 ^ count) := by
  change count.repeat ExtendedMantissa.shiftRightOne _ = _
  induction count with
  | zero =>
      simp [Nat.repeat, extended, ExtendedMantissa.ofMantissaAndAccuracy,
        Nat.mod_one]
  | succ count shifted =>
      rw [Nat.repeat, shifted, pow_succ]
      exact shiftRightOne_extended mantissa (Nat.two_pow_pos count)

theorem roundedMantissa_extended
    (mantissa : Nat)
    {unit : Nat}
    (positive : 0 < unit) :
    (extended mantissa unit).roundedMantissa =
      roundHalfEven mantissa unit := by
  simp only [ExtendedMantissa.roundedMantissa, ExtendedMantissa.accuracy,
    extended, Accuracy.roundToNearestEven, roundHalfEven]
  rcases lt_trichotomy (2 * (mantissa % unit)) unit with low | tie | high
  · by_cases exact : mantissa % unit = 0
    · simp [exact, positive, positive.ne']
    · simp [exact, low, low.ne, low.not_ge]
  · have left : mantissa % unit ≠ 0 := by omega
    have parity := Nat.mod_two_eq_zero_or_one (mantissa / unit)
    rcases parity with even | odd
    · simp [tie, left, even]
    · simp [tie, left, odd]
  · have left : mantissa % unit ≠ 0 := by omega
    simp [high, high.le, high.ne', high.not_gt, left]

/-! ## Rounded numbers -/

theorem log2_mul_two_pow_div_two_pow
    {mantissa : Nat}
    (nonzero : mantissa ≠ 0)
    (up down : Nat) :
    (mantissa * 2 ^ up / 2 ^ down).log2 = mantissa.log2 + up - down := by
  rw [← log2_mul_two_pow nonzero, Nat.log2_eq_log_two, Nat.log_div_base_pow,
    Nat.log2_eq_log_two]

/-- Before the digits of a mantissa have been cut, the exponent of the last
digit that is kept. -/
theorem targetExponent_eq (mantissa : Nat) (exponent : Int) :
    Format.binary64.targetExponent (totalExponent mantissa exponent) =
      max (mantissa.log2 + exponent - 52) (-1074) := by
  simp only [Format.targetExponent, totalExponent, Format.mantissaBits,
    Format.minExponent]
  norm_num
  omega

/-- A mantissa with too few digits is kept. -/
theorem shiftToTargetExponent_of_short
    {mantissa : Nat}
    {exponent : Int}
    (short : mantissa < 2 ^ 53)
    (least : -1074 ≤ exponent) :
    shiftToTargetExponent Format.binary64 mantissa exponent .exact =
      (⟨mantissa, false, false⟩, exponent) := by
  have log2_le : mantissa.log2 ≤ 52 := by
    by_cases zero : mantissa = 0
    · simp [zero]
    · exact Nat.le_of_lt_succ ((Nat.log2_lt zero).mpr short)
  have shift : (max ((mantissa.log2 : Int) + exponent - 52) (-1074) -
      exponent).toNat = 0 := by omega
  simp only [shiftToTargetExponent, shiftToExponent, targetExponent_eq, shift]
  rw [shiftRight_ofMantissa]
  simp [extended, Nat.mod_one]

/-- A mantissa that rounding has made a digit too long loses a zero. -/
theorem shiftToTargetExponent_of_carry
    {exponent : Int}
    (least : -1074 ≤ exponent) :
    shiftToTargetExponent Format.binary64 (2 ^ 53) exponent .exact =
      (⟨2 ^ 52, false, false⟩, exponent + 1) := by
  have log2_eq : (2 ^ 53).log2 = 53 := Nat.log2_two_pow
  have shift : (max (((2 ^ 53).log2 : Int) + exponent - 52) (-1074) -
      exponent).toNat = 1 := by omega
  simp only [shiftToTargetExponent, shiftToExponent, targetExponent_eq, shift]
  rw [shiftRight_ofMantissa]
  simp [extended]

/-- A mantissa that may carry over makes the number at the place that its
exponent and its digits count together. -/
theorem place_of_carry
    (sign : Sign)
    {steps : Nat}
    {exponent : Int}
    (least : -1074 ≤ exponent)
    (bounded : steps ≤ 2 ^ 53)
    (form : 2 ^ 52 ≤ steps ∨ exponent = -1074) :
    let final :=
      shiftToTargetExponent Format.binary64 steps exponent .exact
    let number : UnpackedFloat :=
      if zero : final.1.mantissa = 0 then .zero sign
      else .finite sign final.1.mantissa final.2 (Nat.pos_of_ne_zero zero)
    StandsAt number (sign.apply ((exponent + 1074) * 2 ^ 52 + steps)) := by
  rcases bounded.lt_or_eq with short | rfl
  · simp only [shiftToTargetExponent_of_short short least]
    split
    next zero =>
      obtain rfl : exponent = -1074 := by omega
      refine ⟨rfl, trivial, ?_⟩
      cases sign <;> simp [place, Sign.apply, zero]
    next => exact ⟨rfl, ⟨short, least, form⟩, rfl⟩
  · simp only [shiftToTargetExponent_of_carry least]
    refine ⟨rfl, ⟨by norm_num, by omega, .inl le_rfl⟩, ?_⟩
    change sign.apply ((exponent + 1 + 1074) * 2 ^ 52 + (2 ^ 52 : Nat)) = _
    congr 1
    push_cast
    ring

/-- A number of quanta is rounded to the number at the nearest place. -/
theorem roundWithAccuracy_exact
    (sign : Sign)
    {mantissa up down : Nat}
    {exponent : Int}
    (nonzero : mantissa ≠ 0)
    (quanta_eq : exponent + 1074 = up - down)
    (fine :
      exponent ≤
        Format.binary64.targetExponent (totalExponent mantissa exponent)) :
    StandsAt
      (roundWithAccuracy Format.binary64 sign mantissa exponent .exact)
      (sign.apply (bitsOfQuotient (mantissa * 2 ^ up) (2 ^ down))) := by
  rw [targetExponent_eq] at fine
  have log2_eq := log2_mul_two_pow_div_two_pow nonzero up down
  generalize target_eq :
    max ((mantissa.log2 : Int) + exponent - 52) (-1074) = target at fine
  have shift_eq : (target + 1074).toNat =
      (mantissa * 2 ^ up / 2 ^ down).log2 - fractionBits := by
    rw [log2_eq, fractionBits]
    omega
  have steps_eq :
      roundHalfEven (mantissa * 2 ^ up)
          (2 ^ down * 2 ^ (target + 1074).toNat) =
        roundHalfEven mantissa (2 ^ (target - exponent).toNat) := by
    have units : 2 ^ down * 2 ^ (target + 1074).toNat =
        2 ^ up * 2 ^ (target - exponent).toNat := by
      rw [← pow_add, ← pow_add]
      congr 1
      omega
    rw [units, Nat.mul_comm mantissa,
      roundHalfEven_mul_left (Nat.two_pow_pos up)]
  obtain ⟨bounded, full⟩ := roundHalfEven_binade (mantissa * 2 ^ up)
    (2 ^ down) (target + 1074).toNat shift_eq
  rw [steps_eq] at bounded full
  have least : -1074 ≤ target := by omega
  have carried := place_of_carry sign least bounded (by
    by_cases last : target = -1074
    · exact .inr last
    · exact .inl (full (by omega)))
  have first :
      shiftToTargetExponent Format.binary64 mantissa exponent .exact =
        (extended mantissa (2 ^ (target - exponent).toNat), target) := by
    simp only [shiftToTargetExponent, shiftToExponent, targetExponent_eq,
      target_eq, shiftRight_ofMantissa]
    congr 1
    omega
  simp only [roundWithAccuracy, first,
    roundedMantissa_extended mantissa (Nat.two_pow_pos _)]
  convert carried using 2
  rw [bitsOfQuotient, Nat.pow_eq, Nat.pow_eq, ← shift_eq, steps_eq,
    fractionBits]
  push_cast
  omega

theorem round_stands
    (sign : Sign)
    {mantissa : Nat}
    {exponent : Int}
    (nonzero : mantissa ≠ 0)
    (least : -1074 ≤ exponent) :
    StandsAt (UnpackedFloat.round Format.binary64 sign mantissa exponent)
      (sign.apply
        (bitsOfQuotient (mantissa * 2 ^ (exponent + 1074).toNat) 1)) := by
  simp only [UnpackedFloat.round, decreaseExponent, targetExponent_eq,
    Nat.shiftLeft_eq]
  generalize pad_eq : (exponent -
    max ((mantissa.log2 : Int) + exponent - 52) (-1074)).toNat = pad
  have padded : mantissa * 2 ^ pad ≠ 0 :=
    Nat.mul_ne_zero nonzero (Nat.two_pow_pos pad).ne'
  have log2_eq := log2_mul_two_pow nonzero pad
  have counted : exponent - pad + 1074 =
      (exponent - pad + 1074).toNat - (0 : Nat) := by omega
  have rounded := roundWithAccuracy_exact sign padded counted
    (by rw [targetExponent_eq]; omega)
  have exponents : pad + (exponent - pad + 1074).toNat =
      (exponent + 1074).toNat := by omega
  rwa [Nat.mul_assoc, ← pow_add, exponents, pow_zero] at rounded

end Toolpath.Number
