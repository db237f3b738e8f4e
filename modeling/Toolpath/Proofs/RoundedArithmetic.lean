import Mathlib
import Toolpath.Proofs.RoundedNumbers

/-!
# Rounded arithmetic

The sum, the difference and the product of two finite doubles are the doubles
nearest to the exact results: the exact result is counted in quanta, and its
place is the one that rounding finds for that number of quanta.  Rounding is
monotone, and so arithmetic keeps the order of doubles although its results are
not exact.  A difference of unequal doubles is never rounded to zero.
-/

namespace Toolpath.Number

open Float.Model (Format UnpackedFloat totalExponent)
open Float.Model.UnpackedFloat

/-! ## Quanta -/

/-- The number of quanta that a finite number stands for. -/
def quanta : UnpackedFloat → Int
  | .finite sign mantissa exponent _ =>
    sign.apply (mantissa * 2 ^ (exponent + 1074).toNat)
  | _ => 0

/-- The place nearest to a quotient of quanta. -/
def nearestPlace (numerator : Int) (denominator : Nat) : Int :=
  numerator.sign * bitsOfQuotient numerator.natAbs denominator

theorem bitsOfQuotient_zero (denominator : Nat) :
    bitsOfQuotient 0 denominator = 0 := by
  simp [bitsOfQuotient, roundHalfEven]

theorem nearestPlace_natCast (numerator denominator : Nat) :
    nearestPlace numerator denominator =
      bitsOfQuotient numerator denominator := by
  rcases Nat.eq_zero_or_pos numerator with rfl | positive
  · simp [nearestPlace, bitsOfQuotient_zero]
  · simp [nearestPlace, Int.sign_eq_one_of_pos, positive]

theorem nearestPlace_neg (numerator : Int) (denominator : Nat) :
    nearestPlace (-numerator) denominator =
      -nearestPlace numerator denominator := by
  simp [nearestPlace]

theorem nearestPlace_apply (sign : Sign) (numerator denominator : Nat) :
    nearestPlace (sign.apply numerator) denominator =
      sign.apply (bitsOfQuotient numerator denominator) := by
  cases sign with
  | negative =>
      simp only [Sign.apply, nearestPlace_neg, nearestPlace_natCast]
  | positive => exact nearestPlace_natCast numerator denominator

/-- More quanta are not rounded to a place before. -/
theorem nearestPlace_mono
    {numerator other : Int}
    {denominator : Nat}
    (positive : 0 < denominator)
    (below : numerator ≤ other) :
    nearestPlace numerator denominator ≤ nearestPlace other denominator := by
  have magnitudes {first second : Nat} (ordered : first ≤ second) :
      bitsOfQuotient first denominator ≤ bitsOfQuotient second denominator :=
    bitsOfQuotient_mono positive positive
      (Nat.mul_le_mul_right denominator ordered)
  rcases numerator.eq_nat_or_neg with ⟨first, rfl | rfl⟩ <;>
    rcases other.eq_nat_or_neg with ⟨second, rfl | rfl⟩ <;>
    simp only [nearestPlace_neg, nearestPlace_natCast]
  · exact_mod_cast magnitudes (by omega)
  · obtain rfl : first = 0 := by omega
    obtain rfl : second = 0 := by omega
    simp [bitsOfQuotient_zero]
  · omega
  · have reversed : second ≤ first := by omega
    have ordered := magnitudes reversed
    omega

/-- One quantum is enough to leave the place of zero. -/
theorem nearestPlace_lt_zero_iff (numerator : Int) :
    nearestPlace numerator 1 < 0 ↔ numerator < 0 := by
  constructor
  · intro negative
    by_contra nonnegative
    have above := nearestPlace_mono Nat.one_pos (not_lt.mp nonnegative)
    have zero : nearestPlace 0 1 = 0 := Int.zero_mul _
    omega
  · intro negative
    have enough : numerator ≤ -1 := by omega
    have below := nearestPlace_mono Nat.one_pos enough
    have quantum : nearestPlace (-1) 1 = -1 := by
      have exact : bitsOfQuotient 1 1 = 1 :=
        bitsOfQuotient_of_log2_le (by decide)
      rw [nearestPlace_neg, ← Nat.cast_one, nearestPlace_natCast, exact]
    omega

/-- What a double stands for is rounded to its own place. -/
theorem nearestPlace_quanta
    {number : UnpackedFloat}
    (double : IsDouble number)
    (finite : number.isFinite = true) :
    nearestPlace (quanta number) 1 = place number := by
  cases number with
  | notANumber => cases finite
  | infinity sign => cases finite
  | zero sign => simp [quanta, place, nearestPlace]
  | finite sign mantissa exponent positive =>
      obtain ⟨⟨short, least, form⟩, -⟩ := double
      have exact : bitsOfQuotient
          (mantissa * 2 ^ (exponent + 1074).toNat) 1 =
            (exponent + 1074).toNat * 2 ^ fractionBits + mantissa := by
        rcases form with normal | rfl
        · exact bitsOfQuotient_mul_two_pow _
            ((Nat.log2_eq_iff positive.ne').mpr ⟨normal, short⟩)
        · rcases Nat.lt_or_ge mantissa (2 ^ 52) with subnormal | normal
          · have few := (Nat.log2_lt positive.ne').mpr subnormal
            simpa using bitsOfQuotient_of_log2_le few.le
          · exact bitsOfQuotient_mul_two_pow _
              ((Nat.log2_eq_iff positive.ne').mpr ⟨normal, short⟩)
      have steps := nearestPlace_apply sign
        (mantissa * 2 ^ (exponent + 1074).toNat) 1
      push_cast at steps
      rw [quanta, place, steps, exact, fractionBits]
      congr 1
      push_cast
      omega

/-- A number of quanta is rounded to the number at the nearest place. -/
theorem normalize_stands
    (mantissa : Int)
    {exponent : Int}
    (least : -1074 ≤ exponent) :
    StandsAt
      (UnpackedFloat.normalize Format.binary64 mantissa exponent .positive)
      (nearestPlace (mantissa * 2 ^ (exponent + 1074).toNat) 1) := by
  rw [UnpackedFloat.normalize]
  split
  next negative =>
    have below : mantissa < 0 := compare_lt_iff_lt.mp negative
    have nonzero : (-mantissa).toNat ≠ 0 := by omega
    have rounded := round_stands .negative nonzero least
    rw [← nearestPlace_apply] at rounded
    convert rounded using 2
    rw [Sign.apply]
    push_cast
    rw [Int.toNat_of_nonneg (by omega)]
    ring
  next zero =>
    obtain rfl : mantissa = 0 := compare_eq_iff_eq.mp zero
    exact ⟨rfl, trivial, by simp [nearestPlace, place]⟩
  next positive =>
    have above : 0 < mantissa := compare_gt_iff_gt.mp positive
    have nonzero : mantissa.toNat ≠ 0 := by omega
    have rounded := round_stands .positive nonzero least
    rw [← nearestPlace_apply] at rounded
    convert rounded using 2
    rw [Sign.apply]
    push_cast
    rw [Int.toNat_of_nonneg (by omega)]

/-! ## Arithmetic -/

theorem isRounded_of_isDouble
    {number : UnpackedFloat}
    (double : IsDouble number) :
    IsRounded number := by
  cases number with
  | finite sign mantissa exponent positive => exact double.1
  | _ => trivial

theorem stands_of_isDouble
    {number : UnpackedFloat}
    (double : IsDouble number)
    (finite : number.isFinite = true) :
    StandsAt number (nearestPlace (quanta number) 1) := by
  refine ⟨?_, isRounded_of_isDouble double,
    (nearestPlace_quanta double finite).symm⟩
  cases number with
  | notANumber => cases finite
  | _ => rfl

theorem quanta_zero (sign : Sign) : quanta (.zero sign) = 0 := rfl

theorem zero_stands (sign : Sign) (denominator : Nat) :
    StandsAt (.zero sign) (nearestPlace 0 denominator) :=
  ⟨rfl, trivial, (Int.zero_mul _).symm⟩

theorem quanta_neg (number : UnpackedFloat) :
    quanta number.neg = -quanta number := by
  rcases number with _ | _ | _ | ⟨_ | _, mantissa, exponent, positive⟩ <;>
    simp [quanta, UnpackedFloat.neg, Sign.apply]

theorem isDouble_neg
    {number : UnpackedFloat}
    (double : IsDouble number) :
    IsDouble number.neg := by
  cases number <;> exact double

/-- To subtract is to add the number of the other sign. -/
theorem sub_eq_add_neg
    {first second : UnpackedFloat}
    (firstFinite : first.isFinite = true)
    (secondFinite : second.isFinite = true) :
    first.sub Format.binary64 second =
      first.add Format.binary64 second.neg := by
  cases first with
  | notANumber => cases firstFinite
  | infinity sign => cases firstFinite
  | zero sign =>
      cases second with
      | notANumber => cases secondFinite
      | infinity sign => cases secondFinite
      | _ => rfl
  | finite sign mantissa exponent positive =>
      cases second with
      | notANumber => cases secondFinite
      | infinity sign => cases secondFinite
      | zero other => rfl
      | finite other _ _ _ =>
          cases other <;>
            simp [UnpackedFloat.sub, UnpackedFloat.add, UnpackedFloat.neg,
              Sign.apply, Int.sub_eq_add_neg]

/-- Mantissas are brought to a common exponent without a change. -/
theorem quanta_decreaseExponent
    (sign : Sign)
    {mantissa : Nat}
    {exponent lower : Int}
    (positive : 0 < mantissa)
    (below : lower ≤ exponent)
    (least : -1074 ≤ lower) :
    sign.apply (decreaseExponent mantissa exponent lower).1 *
        2 ^ (lower + 1074).toNat =
      quanta (.finite sign mantissa exponent positive) := by
  have exponents : (exponent - lower).toNat + (lower + 1074).toNat =
      (exponent + 1074).toNat := by omega
  rw [quanta, ← exponents, pow_add, decreaseExponent, Nat.shiftLeft_eq]
  push_cast
  cases sign <;> simp only [Sign.apply] <;> ring

/-- A sum is rounded to the number at the nearest place. -/
theorem add_stands
    {first second : UnpackedFloat}
    (firstDouble : IsDouble first)
    (secondDouble : IsDouble second)
    (firstFinite : first.isFinite = true)
    (secondFinite : second.isFinite = true) :
    StandsAt (first.add Format.binary64 second)
      (nearestPlace (quanta first + quanta second) 1) := by
  cases first with
  | notANumber => cases firstFinite
  | infinity sign => cases firstFinite
  | zero sign =>
      have kept := stands_of_isDouble secondDouble secondFinite
      rw [← zero_add (quanta second)] at kept
      cases second with
      | notANumber => cases secondFinite
      | infinity sign => cases secondFinite
      | zero other =>
          cases sign <;> cases other <;> exact zero_stands _ 1
      | finite other mantissa exponent positive => exact kept
  | finite sign mantissa exponent positive =>
      cases second with
      | notANumber => cases secondFinite
      | infinity sign => cases secondFinite
      | zero other =>
          have kept := stands_of_isDouble firstDouble firstFinite
          rw [← add_zero (quanta _)] at kept
          exact kept
      | finite otherSign other otherExponent otherPositive =>
          have least := firstDouble.1.2.1
          have otherLeast := secondDouble.1.2.1
          have lower : -1074 ≤ min exponent otherExponent := by omega
          have sum := normalize_stands
            (sign.apply (decreaseExponent mantissa exponent
                (min exponent otherExponent)).1 +
              otherSign.apply (decreaseExponent other otherExponent
                (min exponent otherExponent)).1)
            lower
          rwa [add_mul, quanta_decreaseExponent sign positive
              (min_le_left _ _) (by omega),
            quanta_decreaseExponent otherSign otherPositive
              (min_le_right _ _) (by omega)] at sum

/-- A difference is rounded to the number at the nearest place. -/
theorem sub_stands
    {first second : UnpackedFloat}
    (firstDouble : IsDouble first)
    (secondDouble : IsDouble second)
    (firstFinite : first.isFinite = true)
    (secondFinite : second.isFinite = true) :
    StandsAt (first.sub Format.binary64 second)
      (nearestPlace (quanta first - quanta second) 1) := by
  have finite : second.neg.isFinite = true := by
    cases second <;> exact secondFinite
  rw [sub_eq_add_neg firstFinite secondFinite, Int.sub_eq_add_neg,
    ← quanta_neg]
  exact add_stands firstDouble (isDouble_neg secondDouble) firstFinite finite

theorem quantumExponent_eq : quantumExponent = 1074 := by
  unfold quantumExponent
  rfl

theorem apply_mul (first second : Sign) (number other : Int) :
    (first * second).apply (number * other) =
      first.apply number * second.apply other := by
  cases first <;> cases second
  · exact (Int.neg_mul_neg number other).symm
  · exact (Int.neg_mul number other).symm
  · exact (Int.mul_neg number other).symm
  · rfl

/-- Mantissas are multiplied, and the places of their last digits are added. -/
theorem quanta_mul
    (sign otherSign : Sign)
    {mantissa other : Nat}
    (exponent otherExponent : Int)
    (positive : 0 < mantissa)
    (otherPositive : 0 < other) :
    quanta (.finite sign mantissa exponent positive) *
        quanta (.finite otherSign other otherExponent otherPositive) =
      (sign * otherSign).apply
        (mantissa * other *
          2 ^ ((exponent + 1074).toNat + (otherExponent + 1074).toNat) :
            Nat) := by
  rw [quanta, quanta, ← apply_mul]
  congr 1
  push_cast
  ring

/-- The digits of a product of doubles need not be extended. -/
theorem add_le_targetExponent
    {sign otherSign : Sign}
    {mantissa other : Nat}
    {exponent otherExponent : Int}
    {positive : 0 < mantissa}
    {otherPositive : 0 < other}
    (double : IsDouble (.finite sign mantissa exponent positive))
    (otherDouble :
      IsDouble (.finite otherSign other otherExponent otherPositive)) :
    exponent + otherExponent ≤
      Format.binary64.targetExponent
        (totalExponent (mantissa * other) (exponent + otherExponent)) := by
  rw [targetExponent_eq]
  by_cases full : 2 ^ 52 ≤ mantissa * other
  · have nonzero := Nat.mul_ne_zero positive.ne' otherPositive.ne'
    have digits := (Nat.le_log2 nonzero).mpr full
    omega
  · have few : ¬ 2 ^ 52 ≤ mantissa := fun many =>
      full (many.trans (Nat.le_mul_of_pos_right mantissa otherPositive))
    have otherFew : ¬ 2 ^ 52 ≤ other := fun many =>
      full (many.trans (Nat.le_mul_of_pos_left other positive))
    have least := double.1.2.2.resolve_left few
    have otherLeast := otherDouble.1.2.2.resolve_left otherFew
    omega

/-- A product is rounded to the number at the nearest place. -/
theorem mul_stands
    {first second : UnpackedFloat}
    (firstDouble : IsDouble first)
    (secondDouble : IsDouble second)
    (firstFinite : first.isFinite = true)
    (secondFinite : second.isFinite = true) :
    StandsAt (first.mul Format.binary64 second)
      (nearestPlace (quanta first * quanta second)
        (2 ^ quantumExponent)) := by
  cases first with
  | notANumber => cases firstFinite
  | infinity sign => cases firstFinite
  | zero sign =>
      rw [quanta_zero, Int.zero_mul]
      cases second with
      | notANumber => cases secondFinite
      | infinity sign => cases secondFinite
      | _ => exact zero_stands _ _
  | finite sign mantissa exponent positive =>
      cases second with
      | notANumber => cases secondFinite
      | infinity sign => cases secondFinite
      | zero other =>
          rw [quanta_zero, Int.mul_zero]
          exact zero_stands _ _
      | finite otherSign other otherExponent otherPositive =>
          have least := firstDouble.1.2.1
          have otherLeast := secondDouble.1.2.1
          have counted : exponent + otherExponent + 1074 =
              ((exponent + 1074).toNat + (otherExponent + 1074).toNat : Nat) -
                quantumExponent := by
            rw [quantumExponent_eq]
            omega
          have product := roundWithAccuracy_exact (sign * otherSign)
            (Nat.mul_ne_zero positive.ne' otherPositive.ne') counted
            (add_le_targetExponent firstDouble secondDouble)
          rw [quanta_mul, nearestPlace_apply]
          exact product

/-! ## Operations on doubles -/

/-- The number of quanta that a finite double stands for. -/
def quantaOf (value : Float) : Int := quanta value.toModel.unpack

theorem placeOf_add
    {first second : Float}
    (firstFinite : first.isFinite = true)
    (secondFinite : second.isFinite = true) :
    (first + second).isNaN = false ∧
      placeOf (first + second) =
        clamped (nearestPlace (quantaOf first + quantaOf second) 1) :=
  placeOf_of_packed rfl
    (add_stands (isDouble first) (isDouble second) firstFinite secondFinite)

theorem placeOf_sub
    {first second : Float}
    (firstFinite : first.isFinite = true)
    (secondFinite : second.isFinite = true) :
    (first - second).isNaN = false ∧
      placeOf (first - second) =
        clamped (nearestPlace (quantaOf first - quantaOf second) 1) :=
  placeOf_of_packed rfl
    (sub_stands (isDouble first) (isDouble second) firstFinite secondFinite)

theorem placeOf_mul
    {first second : Float}
    (firstFinite : first.isFinite = true)
    (secondFinite : second.isFinite = true) :
    (first * second).isNaN = false ∧
      placeOf (first * second) =
        clamped
          (nearestPlace (quantaOf first * quantaOf second)
            (2 ^ quantumExponent)) :=
  placeOf_of_packed rfl
    (mul_stands (isDouble first) (isDouble second) firstFinite secondFinite)

theorem quantaOfBits_place
    {binades mantissa : Nat}
    (short : mantissa < 2 ^ 53)
    (form : 2 ^ 52 ≤ mantissa ∨ binades = 0) :
    quantaOfBits (binades * 2 ^ 52 + mantissa) = mantissa * 2 ^ binades := by
  rw [quantaOfBits]
  split
  next least =>
    simp only [Nat.pow_eq, fractionBits] at least ⊢
    obtain rfl : binades = 0 := by omega
    omega
  next normal =>
    simp only [Nat.pow_eq, fractionBits] at normal ⊢
    have field : (binades * 2 ^ 52 + mantissa) / 2 ^ 52 = binades + 1 := by
      omega
    have fraction : (binades * 2 ^ 52 + mantissa) % 2 ^ 52 + 2 ^ 52 =
        mantissa := by
      omega
    rw [field, fraction, Nat.add_sub_cancel]

/-- A place determines the quanta of the double at it. -/
theorem quanta_eq_of_place
    {number : UnpackedFloat}
    (double : IsDouble number)
    (finite : number.isFinite = true) :
    quanta number =
      (place number).sign * quantaOfBits (place number).natAbs := by
  cases number with
  | notANumber => cases finite
  | infinity sign => cases finite
  | zero sign => simp [quanta, place]
  | finite sign mantissa exponent positive =>
      obtain ⟨⟨short, least, form⟩, -⟩ := double
      have steps : (exponent + 1074) * 2 ^ 52 + mantissa =
          (((exponent + 1074).toNat * 2 ^ 52 + mantissa : Nat) : Int) := by
        push_cast
        omega
      have binades : 2 ^ 52 ≤ mantissa ∨ (exponent + 1074).toNat = 0 := by
        omega
      have whole := quantaOfBits_place short binades
      have sign_eq : (((exponent + 1074).toNat * 2 ^ 52 + mantissa : Nat) :
          Int).sign = 1 :=
        Int.sign_eq_one_of_pos (by omega)
      rw [quanta, place, steps]
      cases sign with
      | negative =>
          simp only [Sign.apply, Int.sign_neg, sign_eq, Int.natAbs_neg,
            Int.natAbs_natCast, whole]
          push_cast
          ring
      | positive =>
          simp only [Sign.apply, sign_eq, Int.natAbs_natCast, whole]
          push_cast
          ring

theorem placeOf_eq_nearestPlace
    {value : Float}
    (finite : value.isFinite = true) :
    placeOf value = nearestPlace (quantaOf value) 1 :=
  (nearestPlace_quanta (isDouble value) finite).symm

/-- Finite doubles are compared by their quanta. -/
theorem le_iff_quantaOf_le
    {first second : Float}
    (firstFinite : first.isFinite = true)
    (secondFinite : second.isFinite = true) :
    first ≤ second ↔ quantaOf first ≤ quantaOf second := by
  have placed := placeOf_eq_nearestPlace firstFinite
  have otherPlaced := placeOf_eq_nearestPlace secondFinite
  rw [le_iff_placeOf_le]
  constructor
  · rintro ⟨-, -, below⟩
    by_contra above
    -- The second place is not behind the first one either.
    have same : placeOf first = placeOf second := by
      refine below.antisymm ?_
      rw [placed, otherPlaced]
      exact nearestPlace_mono Nat.one_pos (not_le.mp above).le
    have firstQuanta := quanta_eq_of_place (isDouble first) firstFinite
    have secondQuanta := quanta_eq_of_place (isDouble second) secondFinite
    change place first.toModel.unpack = place second.toModel.unpack at same
    rw [same, ← secondQuanta] at firstQuanta
    exact above firstQuanta.le
  · intro below
    refine ⟨isNaN_eq_false firstFinite, isNaN_eq_false secondFinite, ?_⟩
    rw [placed, otherPlaced]
    exact nearestPlace_mono Nat.one_pos below

/-! ## Arithmetic keeps the order -/

/-- Doubles are ordered as their sums with a third one. -/
theorem add_le_add_of_le
    {first second shift : Float}
    (firstFinite : first.isFinite = true)
    (secondFinite : second.isFinite = true)
    (shiftFinite : shift.isFinite = true)
    (below : first ≤ second) :
    first + shift ≤ second + shift := by
  obtain ⟨number, placed⟩ := placeOf_add firstFinite shiftFinite
  obtain ⟨otherNumber, otherPlaced⟩ := placeOf_add secondFinite shiftFinite
  have ordered := (le_iff_quantaOf_le firstFinite secondFinite).mp below
  refine (le_iff_placeOf_le _ _).mpr ⟨number, otherNumber, ?_⟩
  rw [placed, otherPlaced]
  exact clamped_mono (nearestPlace_mono Nat.one_pos (by omega))

theorem isFinite_zero : (0.0 : Float).isFinite = true := by
  change (0.0 : Float).toModel.unpack.isFinite = true
  rw [unpack_zero]
  rfl

theorem quantaOf_nonneg
    {value : Float}
    (finite : value.isFinite = true)
    (nonnegative : 0.0 ≤ value) :
    0 ≤ quantaOf value := by
  have ordered := (le_iff_quantaOf_le isFinite_zero finite).mp nonnegative
  rwa [quantaOf, unpack_zero, quanta_zero] at ordered

/-- What is not negative makes no sum smaller. -/
theorem le_add_of_nonneg
    {value shift : Float}
    (finite : value.isFinite = true)
    (shiftFinite : shift.isFinite = true)
    (nonnegative : 0.0 ≤ shift) :
    value ≤ value + shift := by
  obtain ⟨number, placed⟩ := placeOf_add finite shiftFinite
  have known := isNaN_eq_false finite
  have bounds := abs_lt.mp ((isFinite_iff_abs_placeOf_lt known).mp finite)
  have ordered := quantaOf_nonneg shiftFinite nonnegative
  refine (le_iff_placeOf_le _ _).mpr ⟨known, number, ?_⟩
  have row : placeOf value = clamped (placeOf value) := by
    simp only [clamped]
    omega
  rw [placed, row, placeOf_eq_nearestPlace finite]
  exact clamped_mono (nearestPlace_mono Nat.one_pos (by omega))

/-- Doubles are ordered as their products with a factor that is not
negative. -/
theorem mul_le_mul_of_le
    {first second factor : Float}
    (firstFinite : first.isFinite = true)
    (secondFinite : second.isFinite = true)
    (factorFinite : factor.isFinite = true)
    (nonnegative : 0.0 ≤ factor)
    (below : first ≤ second) :
    first * factor ≤ second * factor := by
  obtain ⟨number, placed⟩ := placeOf_mul firstFinite factorFinite
  obtain ⟨otherNumber, otherPlaced⟩ := placeOf_mul secondFinite factorFinite
  have ordered := (le_iff_quantaOf_le firstFinite secondFinite).mp below
  refine (le_iff_placeOf_le _ _).mpr ⟨number, otherNumber, ?_⟩
  rw [placed, otherPlaced]
  exact clamped_mono (nearestPlace_mono (Nat.two_pow_pos _)
    (mul_le_mul_of_nonneg_right ordered
      (quantaOf_nonneg factorFinite nonnegative)))

/-- A difference of finite doubles is negative exactly if the first one is
smaller: it is not rounded to zero. -/
theorem sub_lt_zero_iff
    {first second : Float}
    (firstFinite : first.isFinite = true)
    (secondFinite : second.isFinite = true) :
    first - second < 0.0 ↔ first < second := by
  obtain ⟨number, placed⟩ := placeOf_sub firstFinite secondFinite
  have firstNumber := isNaN_eq_false firstFinite
  have secondNumber := isNaN_eq_false secondFinite
  have nearest := nearestPlace_lt_zero_iff (quantaOf first - quantaOf second)
  have row (spot : Int) : clamped spot < 0 ↔ spot < 0 := by
    simp only [clamped, infinityBits]
    omega
  have zero : placeOf 0.0 = 0 := by
    rw [placeOf, unpack_zero, place]
  rw [lt_iff_placeOf_lt number (isNaN_eq_false isFinite_zero), placed, zero,
    row, nearest, sub_neg, ← not_le,
    ← le_iff_quantaOf_le secondFinite firstFinite,
    ← not_lt_iff_le firstNumber secondNumber, not_not]

/-- What lies between finite doubles is finite. -/
theorem isFinite_of_le_of_le
    {low value high : Float}
    (lowFinite : low.isFinite = true)
    (highFinite : high.isFinite = true)
    (above : low ≤ value)
    (below : value ≤ high) :
    value.isFinite = true := by
  obtain ⟨lowNumber, number, lowest⟩ := (le_iff_placeOf_le _ _).mp above
  obtain ⟨-, highNumber, highest⟩ := (le_iff_placeOf_le _ _).mp below
  have lowBounds :=
    abs_lt.mp ((isFinite_iff_abs_placeOf_lt lowNumber).mp lowFinite)
  have highBounds :=
    abs_lt.mp ((isFinite_iff_abs_placeOf_lt highNumber).mp highFinite)
  refine (isFinite_iff_abs_placeOf_lt number).mpr (abs_lt.mpr ?_)
  omega

end Toolpath.Number
