import Toolpath.Number.Layout
import Toolpath.Proofs.DoubleBits

/-!
# The double nearest to a decimal

Rounding keeps what needs no rounding.  A whole number of quanta that a double
stands for is rounded to that double, a quotient may be extended without a
change to what it is rounded to, and so the exact decimal of a double is read
back.  The shortest decimal of a finite double therefore reads back, and so
does its numeral without an exponent.
-/

namespace Toolpath.Number

/-! ## Rounding -/

/-- What can be divided exactly is not rounded. -/
theorem roundHalfEven_mul_right
    (count : Nat)
    {unit : Nat}
    (positive : 0 < unit) :
    roundHalfEven (count * unit) unit = count := by
  simp [roundHalfEven, Nat.mul_div_cancel count positive, positive]

/-- A quotient may be extended. -/
theorem roundHalfEven_mul_left
    {factor : Nat}
    (positive : 0 < factor)
    (numerator denominator : Nat) :
    roundHalfEven (factor * numerator) (factor * denominator) =
      roundHalfEven numerator denominator := by
  have below (first second : Nat) :
      factor * first < factor * second ↔ first < second :=
    Nat.mul_lt_mul_left positive
  have twice : 2 * (factor * (numerator % denominator)) =
      factor * (2 * (numerator % denominator)) :=
    Nat.mul_left_comm ..
  simp only [roundHalfEven, Nat.mul_div_mul_left numerator denominator
    positive, Nat.mul_mod_mul_left, twice, below]

/-- A quotient of quanta may be extended. -/
theorem bitsOfQuotient_mul_left
    {factor : Nat}
    (positive : 0 < factor)
    (numerator denominator : Nat) :
    bitsOfQuotient (factor * numerator) (factor * denominator) =
      bitsOfQuotient numerator denominator := by
  simp only [bitsOfQuotient, Nat.mul_div_mul_left numerator denominator
    positive, Nat.mul_assoc, roundHalfEven_mul_left positive]

theorem log2_mul_two_pow
    {number : Nat}
    (nonzero : number ≠ 0)
    (exponent : Nat) :
    (number * 2 ^ exponent).log2 = number.log2 + exponent := by
  have positive : 0 < 2 ^ exponent := Nat.two_pow_pos exponent
  have product : number * 2 ^ exponent ≠ 0 :=
    Nat.mul_ne_zero nonzero (Nat.ne_of_gt positive)
  rw [Nat.log2_eq_iff product, Nat.pow_add, Nat.add_right_comm, Nat.pow_add,
    Nat.mul_le_mul_right_iff positive, Nat.mul_lt_mul_right positive]
  exact (Nat.log2_eq_iff nonzero).mp rfl

/-- A multiple of a power of two, with as many digits before it as a fraction
has, is rounded to the double that counts its binades and its steps. -/
theorem bitsOfQuotient_mul_two_pow
    {steps : Nat}
    (exponent : Nat)
    (log2_eq : steps.log2 = fractionBits) :
    bitsOfQuotient (steps * 2 ^ exponent) 1 =
      exponent * 2 ^ fractionBits + steps := by
  have nonzero : steps ≠ 0 := by
    rintro rfl
    exact absurd log2_eq (by decide)
  have shift : (steps * 2 ^ exponent).log2 - fractionBits = exponent := by
    rw [log2_mul_two_pow nonzero, log2_eq, Nat.add_sub_cancel_left]
  rw [bitsOfQuotient, Nat.div_one, shift, Nat.pow_eq, Nat.pow_eq, Nat.one_mul,
    roundHalfEven_mul_right steps (Nat.two_pow_pos exponent)]

/-- Below the first binade every whole number of quanta is a double. -/
theorem bitsOfQuotient_of_log2_le
    {quanta : Nat}
    (short : quanta.log2 ≤ fractionBits) :
    bitsOfQuotient quanta 1 = quanta := by
  have exact := roundHalfEven_mul_right quanta Nat.one_pos
  rw [Nat.mul_one] at exact
  simp [bitsOfQuotient, Nat.sub_eq_zero_of_le short, exact]

/-- The quanta of a double are rounded to that double. -/
theorem bitsOfQuotient_quantaOfBits (magnitudeBits : Nat) :
    bitsOfQuotient (quantaOfBits magnitudeBits) 1 = magnitudeBits := by
  have parts := Nat.div_add_mod magnitudeBits (2 ^ fractionBits)
  have fraction_lt :=
    Nat.mod_lt magnitudeBits (Nat.two_pow_pos fractionBits)
  simp only [quantaOfBits, Nat.pow_eq]
  generalize magnitudeBits / 2 ^ fractionBits = field at parts ⊢
  generalize magnitudeBits % 2 ^ fractionBits = fraction at parts fraction_lt ⊢
  split
  next subnormal =>
    rw [subnormal, Nat.mul_zero, Nat.zero_add] at parts
    have short : fraction.log2 ≤ fractionBits := by
      by_cases zero : fraction = 0
      · simp [zero]
      · exact Nat.le_of_lt ((Nat.log2_lt zero).mpr fraction_lt)
    rw [bitsOfQuotient_of_log2_le short, parts]
  next normal =>
    have log2_eq : (fraction + 2 ^ fractionBits).log2 = fractionBits := by
      rw [Nat.log2_eq_iff (by omega), Nat.pow_succ]
      omega
    rw [bitsOfQuotient_mul_two_pow (field - 1) log2_eq, ← parts]
    have binades : (field - 1) * 2 ^ fractionBits + 2 ^ fractionBits =
        2 ^ fractionBits * field := by
      rw [← Nat.succ_mul, Nat.succ_eq_add_one, Nat.sub_add_cancel (by omega),
        Nat.mul_comm]
    omega

/-! ## Decimals -/

namespace Decimal

theorem quanta_natCast (digits exponent : Nat) :
    quanta ⟨digits, exponent⟩ =
      (digits * 2 ^ quantumExponent * 10 ^ exponent, 1) := by
  simp [quanta]

theorem quanta_neg_natCast
    (digits : Nat)
    {places : Nat}
    (positive : 0 < places) :
    quanta ⟨digits, -places⟩ =
      (digits * 2 ^ quantumExponent, 10 ^ places) := by
  have negative : ¬ 0 ≤ -(places : Int) := by omega
  simp only [quanta, negative, if_false, Nat.pow_eq, Int.neg_neg,
    Int.toNat_natCast]

/-- A decimal that is neither zero nor far out of range is rounded as a
quotient. -/
theorem nearestBits_eq_min
    {decimal : Decimal}
    (nonzero : decimal.digits ≠ 0)
    (not_large : decimal.exponent ≤ overflowExponent)
    (not_small :
      -overflowExponent ≤ decimal.exponent + (decimal.digits.log2 + 1)) :
    decimal.nearestBits =
      min infinityBits
        (bitsOfQuotient decimal.quanta.1 decimal.quanta.2) := by
  rw [nearestBits, if_neg nonzero, if_neg (by omega), if_neg (by omega)]

/-- A decimal whose nearest double is finite has no large exponent. -/
theorem exponent_le
    {decimal : Decimal}
    (nonzero : decimal.digits ≠ 0)
    (finite : decimal.nearestBits < infinityBits) :
    decimal.exponent ≤ overflowExponent := by
  apply Int.not_lt.mp
  intro large
  rw [nearestBits, if_neg nonzero, if_pos large] at finite
  exact Nat.lt_irrefl _ finite

/-- A zero may be moved from the exponent to the digits of a finite decimal. -/
theorem nearestBits_mul_ten
    {digits exponent : Nat}
    (finite : nearestBits ⟨digits, exponent⟩ < infinityBits) :
    nearestBits ⟨digits * 10 ^ (exponent + 1), -1⟩ =
      nearestBits ⟨digits, exponent⟩ := by
  by_cases zero : digits = 0
  · simp [nearestBits, zero]
  · have bound := exponent_le zero finite
    have digits_ne : digits * 10 ^ (exponent + 1) ≠ 0 :=
      Nat.mul_ne_zero zero (Nat.ne_of_gt (Nat.pow_pos (by decide)))
    simp only [overflowExponent] at bound
    rw [nearestBits_eq_min digits_ne (by simp [overflowExponent])
        (by simp only [overflowExponent]; omega),
      nearestBits_eq_min zero bound
        (by simp only [overflowExponent]; omega)]
    have quotient :
        quanta ⟨digits * 10 ^ (exponent + 1), -1⟩ =
          (10 * (digits * 2 ^ quantumExponent * 10 ^ exponent), 10 * 1) := by
      refine (quanta_neg_natCast _ Nat.one_pos).trans (Prod.ext ?_ rfl)
      rw [Nat.pow_succ]
      ac_rfl
    rw [quotient, quanta_natCast, bitsOfQuotient_mul_left (by decide)]

end Decimal

/-- The exact decimal of a positive double has more digits than a decimal needs
that is not far out of range. -/
theorem lt_log2_exactDecimal
    {quanta : Nat}
    (nonzero : quanta ≠ 0) :
    673 ≤ (quanta * 5 ^ quantumExponent).log2 := by
  have positive : 0 < 5 ^ quantumExponent := Nat.pow_pos (by decide)
  have large : 673 ≤ quantumExponent := by
    rw [quantumExponent]
    decide
  have power : 2 ^ quantumExponent ≤ quanta * 5 ^ quantumExponent :=
    calc
      2 ^ quantumExponent ≤ 5 ^ quantumExponent :=
        Nat.pow_le_pow_left (by decide) _
      _ ≤ quanta * 5 ^ quantumExponent :=
        Nat.le_mul_of_pos_left _ (Nat.pos_of_ne_zero nonzero)
  have nonzeroProduct := Nat.mul_ne_zero nonzero (Nat.ne_of_gt positive)
  exact Nat.le_trans large ((Nat.le_log2 nonzeroProduct).mpr power)

/-- The exact decimal of a finite double is read back. -/
theorem nearestBits_exactDecimal
    {magnitudeBits : Nat}
    (finite : magnitudeBits < infinityBits) :
    (exactDecimal magnitudeBits).nearestBits = magnitudeBits := by
  have rounded := bitsOfQuotient_quantaOfBits magnitudeBits
  by_cases zero : quantaOfBits magnitudeBits = 0
  · rw [zero, bitsOfQuotient_of_log2_le (by decide)] at rounded
    simpa [exactDecimal, Decimal.nearestBits, zero] using rounded
  · have places : quantumExponent = 1074 := by rw [quantumExponent]
    have digits := lt_log2_exactDecimal zero
    have quotient :
        (exactDecimal magnitudeBits).quanta =
          (10 ^ quantumExponent * quantaOfBits magnitudeBits,
            10 ^ quantumExponent * 1) := by
      have powers : 10 ^ quantumExponent =
          5 ^ quantumExponent * 2 ^ quantumExponent := by
        rw [← Nat.mul_pow]
      refine (Decimal.quanta_neg_natCast _ (by omega)).trans
        (Prod.ext ?_ (Nat.mul_one _).symm)
      rw [Nat.pow_eq, powers]
      ac_rfl
    rw [Decimal.nearestBits_eq_min, quotient,
      bitsOfQuotient_mul_left (Nat.pow_pos (by decide)), rounded,
      Nat.min_eq_right (Nat.le_of_lt finite)]
    · intro none
      simp only [exactDecimal, Nat.pow_eq] at none
      rw [none] at digits
      exact absurd digits (by decide)
    · simp only [exactDecimal, Decimal.overflowExponent]
      omega
    · simp only [exactDecimal, Decimal.overflowExponent, Nat.pow_eq]
      omega

/-- The shortest decimal of a finite double is read back. -/
theorem nearestBits_shortest
    (tie : Tie)
    {magnitudeBits : Nat}
    (finite : magnitudeBits < infinityBits) :
    (shortest tie magnitudeBits).nearestBits = magnitudeBits := by
  rw [shortest]
  split
  next zero =>
    rw [zero]
    rfl
  next =>
    exact nearestBits_shortestFrom tie magnitudeBits _ _ _
      (nearestBits_exactDecimal finite)

end Toolpath.Number
