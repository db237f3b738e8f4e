import Mathlib

/-!
# Doubles of opposite signs

The two differences of a pair of doubles have opposite signs, unless both of
them are zero: a zero difference of equal doubles is positive either way.
Neither rounding nor an overflow tells the signs apart, and so the squares of
the two differences are the same double, NaN and infinities included.
-/

namespace Toolpath.Number

open Float.Model (Format UnpackedFloat)
open Float.Model.UnpackedFloat

/-! ## Unpacked numbers -/

/-- A number is rounded as its opposite is, with the sign exchanged. -/
theorem round_neg_sign
    (sign : Sign)
    (mantissa : Nat)
    (exponent : Int) :
    UnpackedFloat.round Format.binary64 (-sign) mantissa exponent =
      (UnpackedFloat.round Format.binary64 sign mantissa exponent).neg := by
  simp only [UnpackedFloat.round, roundWithAccuracy]
  split
  next => rfl
  next => rfl

theorem normalize_neg
    {mantissa : Int}
    (nonzero : mantissa ≠ 0)
    (exponent : Int) :
    UnpackedFloat.normalize Format.binary64 (-mantissa) exponent .positive =
      (UnpackedFloat.normalize Format.binary64 mantissa exponent
        .positive).neg := by
  rcases lt_or_gt_of_ne nonzero with negative | positive
  · have opposite : compare (-mantissa) 0 = .gt :=
      compare_gt_iff_gt.mpr (by omega)
    simp only [UnpackedFloat.normalize, opposite,
      compare_lt_iff_lt.mpr negative, ← round_neg_sign]
    rfl
  · have opposite : compare (-mantissa) 0 = .lt :=
      compare_lt_iff_lt.mpr (by omega)
    simp only [UnpackedFloat.normalize, opposite, neg_neg,
      compare_gt_iff_gt.mpr positive, ← round_neg_sign]
    rfl

/-- A difference is rounded as the opposite one, with the sign exchanged, unless
it is zero. -/
theorem normalize_sub_swapped (mantissa other exponent : Int) :
    UnpackedFloat.normalize Format.binary64 (other - mantissa) exponent
        .positive =
      (UnpackedFloat.normalize Format.binary64 (mantissa - other) exponent
        .positive).neg ∨
    UnpackedFloat.normalize Format.binary64 (other - mantissa) exponent
        .positive = .zero .positive ∧
      UnpackedFloat.normalize Format.binary64 (mantissa - other) exponent
        .positive = .zero .positive := by
  by_cases same : mantissa = other
  · subst same
    rw [Int.sub_self]
    exact .inr ⟨rfl, rfl⟩
  · rw [← Int.neg_sub mantissa other]
    exact .inl (normalize_neg (sub_ne_zero.mpr same) exponent)

/-- The two differences are opposite, or both are the positive zero. -/
theorem sub_swapped (first second : UnpackedFloat) :
    second.sub Format.binary64 first =
        (first.sub Format.binary64 second).neg ∨
      second.sub Format.binary64 first = .zero .positive ∧
        first.sub Format.binary64 second = .zero .positive := by
  cases first with
  | notANumber => cases second <;> exact .inl rfl
  | infinity sign =>
      cases second with
      | infinity other => cases sign <;> cases other <;> exact .inl rfl
      | _ => exact .inl rfl
  | zero sign =>
      cases second with
      | notANumber => exact .inl rfl
      | infinity other => cases other <;> exact .inl rfl
      | finite other _ _ _ => cases other <;> exact .inl rfl
      | zero other =>
          -- Zeros of one sign cancel, those of two signs keep the first one.
          cases sign <;> cases other
          case negative.positive => exact .inl rfl
          case positive.negative => exact .inl rfl
          all_goals exact .inr ⟨rfl, rfl⟩
  | finite sign mantissa exponent positive =>
      cases second with
      | notANumber => exact .inl rfl
      | infinity other => cases other <;> exact .inl rfl
      | zero other => exact .inl rfl
      | finite other otherMantissa otherExponent otherPositive =>
          simp only [UnpackedFloat.sub, min_comm otherExponent exponent]
          exact normalize_sub_swapped _ _ _

/-- The square of a number does not tell its sign. -/
theorem mul_neg_neg (number : UnpackedFloat) :
    number.neg.mul Format.binary64 number.neg =
      number.mul Format.binary64 number := by
  rcases number with sign | _ | sign | ⟨sign, mantissa, exponent, positive⟩
  case notANumber => rfl
  all_goals cases sign <;> rfl

/-- A finite number less itself is the positive zero. -/
theorem sub_self_eq_zero
    {number : UnpackedFloat}
    (finite : number.isFinite = true) :
    number.sub Format.binary64 number = .zero .positive := by
  cases number with
  | notANumber => cases finite
  | infinity sign => cases finite
  | zero sign => cases sign <;> rfl
  | finite sign mantissa exponent positive =>
      simp only [UnpackedFloat.sub, Int.sub_self]
      rfl

/-! ## Packing -/

/-- The sign bit alone tells opposite doubles apart. -/
theorem unpack_packComponents_neg
    (sign : Sign)
    (field : BitVec Format.binary64.exponentBits)
    (fraction : BitVec Format.binary64.mantissaBitsWithoutImplicit) :
    unpack Format.binary64
        (packComponents Format.binary64 (-sign) field fraction) =
      (unpack Format.binary64
        (packComponents Format.binary64 sign field fraction)).neg := by
  simp only [unpack, unpackMantissa_packComponents,
    unpackExponent_packComponents, UnpackedFloat.unpackSign_packComponents,
    Sign.ofBitVec_toBitVec]
  split
  next =>
    split
    next => rfl
    next => rfl
  next =>
    split
    next =>
      split
      next => rfl
      next => rfl
    next => rfl

/-- Opposite numbers are packed to opposite doubles. -/
theorem unpack_pack_neg (number : UnpackedFloat) :
    unpack Format.binary64 (pack Format.binary64 number.neg) =
      (unpack Format.binary64 (pack Format.binary64 number)).neg := by
  cases number with
  | notANumber => rw [UnpackedFloat.neg, pack, unpack_packedNaN]; rfl
  | infinity sign => exact unpack_packComponents_neg sign _ _
  | zero sign => exact unpack_packComponents_neg sign _ _
  | finite sign mantissa exponent positive =>
      simp only [UnpackedFloat.neg, pack]
      split
      next => exact unpack_packComponents_neg sign _ _
      next =>
        split
        next => exact unpack_packComponents_neg sign _ _
        next => exact unpack_packComponents_neg sign _ _

/-! ## Doubles -/

/-- Doubles that are unpacked to the same number are the same. -/
theorem eq_of_unpack_eq
    {first second : Float}
    (same : first.toModel.unpack = second.toModel.unpack) :
    first = second := by
  have bits := (unpack_inj_of_valid first.toModel.valid
    second.toModel.valid).mp same
  exact Float.toBits_inj.mp (UInt64.toBitVec_inj.mp bits)

theorem unpack_neg (value : Float) :
    (-value).toModel.unpack = value.toModel.unpack.neg := by
  have packed :
      (-value).toModel.unpack =
        unpack Format.binary64
          (pack Format.binary64 value.toModel.unpack.neg) :=
    rfl
  rw [packed, unpack_pack_neg]
  exact congrArg UnpackedFloat.neg
    (congrArg (unpack Format.binary64)
      (pack_unpack_of_valid value.toModel.valid))

theorem unpack_sub (first second : Float) :
    (first - second).toModel.unpack =
      unpack Format.binary64 (pack Format.binary64
        (first.toModel.unpack.sub Format.binary64 second.toModel.unpack)) :=
  rfl

theorem unpack_mul (first second : Float) :
    (first * second).toModel.unpack =
      unpack Format.binary64 (pack Format.binary64
        (first.toModel.unpack.mul Format.binary64 second.toModel.unpack)) :=
  rfl

theorem sub_eq_zero_of_unpacked
    {first second : Float}
    (zero :
      first.toModel.unpack.sub Format.binary64 second.toModel.unpack =
        .zero .positive) :
    first - second = 0.0 := by
  refine eq_of_unpack_eq ?_
  rw [unpack_sub, zero]
  rfl

/-- A finite double less itself is zero. -/
theorem sub_eq_zero_of_isFinite
    {value : Float}
    (finite : value.isFinite = true) :
    value - value = 0.0 :=
  sub_eq_zero_of_unpacked (sub_self_eq_zero finite)

/-- The two differences of doubles are opposite, or both are zero. -/
theorem sub_eq_neg_sub_or_zero (first second : Float) :
    second - first = -(first - second) ∨
      second - first = 0.0 ∧ first - second = 0.0 := by
  rcases sub_swapped first.toModel.unpack second.toModel.unpack with
    opposite | ⟨zero, otherZero⟩
  · refine .inl (eq_of_unpack_eq ?_)
    rw [unpack_neg, unpack_sub, unpack_sub, opposite, unpack_pack_neg]
  · exact .inr
      ⟨sub_eq_zero_of_unpacked zero, sub_eq_zero_of_unpacked otherZero⟩

theorem neg_mul_neg_self (value : Float) :
    -value * -value = value * value := by
  refine eq_of_unpack_eq ?_
  rw [unpack_mul, unpack_mul, unpack_neg, mul_neg_neg]

/-- The squares of the two differences of doubles are the same. -/
theorem sub_mul_sub_swapped (first second : Float) :
    (second - first) * (second - first) =
      (first - second) * (first - second) := by
  rcases sub_eq_neg_sub_or_zero first second with
    opposite | ⟨zero, otherZero⟩
  · rw [opposite, neg_mul_neg_self]
  · rw [zero, otherZero]

end Toolpath.Number
