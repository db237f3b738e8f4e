import Mathlib
import Toolpath.Proofs.DoubleOrder
import Toolpath.Proofs.NearestDouble

/-!
# The places of doubles

Doubles stand in a row, in which zero has the place 0, the smallest positive
double the place 1, and an infinity the place behind the last finite double on
its side.  The place of a magnitude is its bit pattern.  Doubles are compared
by their places, and a rounded number that is too large for a double is put at
the place of an infinity.
-/

namespace Toolpath.Number

open Float.Model (Format UnpackedFloat)
open Float.Model.UnpackedFloat

/-! ## Places -/

/-- The place of a number in the row of doubles; a NaN has none. -/
def place : UnpackedFloat → Int
  | .notANumber => 0
  | .zero _ => 0
  | .infinity sign => sign.apply infinityBits
  | .finite sign mantissa exponent _ =>
    sign.apply ((exponent + 1074) * 2 ^ 52 + mantissa)

/-- A number is rounded if it has the 53 digits of a double, or fewer if its
last digit counts quanta. -/
def IsRounded : UnpackedFloat → Prop
  | .finite _ mantissa exponent _ =>
    mantissa < 2 ^ 53 ∧ -1074 ≤ exponent ∧
      (2 ^ 52 ≤ mantissa ∨ exponent = -1074)
  | _ => True

/-- A rounded number is a double unless it is too large. -/
def IsDouble : UnpackedFloat → Prop
  | .finite sign mantissa exponent positive =>
    IsRounded (.finite sign mantissa exponent positive) ∧ exponent ≤ 971
  | _ => True

/-- The place in the row that is nearest to a spot. -/
def clamped (spot : Int) : Int :=
  max (-(infinityBits : Int)) (min infinityBits spot)

theorem clamped_mono
    {spot other : Int}
    (below : spot ≤ other) :
    clamped spot ≤ clamped other :=
  max_le_max_left _ (min_le_min_left _ below)

/-- A number that is rounded, and the spot at which it stands. -/
structure StandsAt (number : UnpackedFloat) (spot : Int) : Prop where
  defined : number.isNaN = false
  rounded : IsRounded number
  place_eq : place number = spot

/-- Doubles are compared by their places. -/
theorem rank_le_iff_place_le
    {first second : UnpackedFloat}
    (firstDouble : IsDouble first)
    (secondDouble : IsDouble second) :
    rank first ≤ rank second ↔ place first ≤ place second := by
  rcases first with
    (_ | _) | _ | _ | ⟨_ | _, mantissa, exponent, positive⟩ <;>
    rcases second with
      (_ | _) | _ | _ | ⟨_ | _, other, otherExponent, otherPositive⟩ <;>
    simp only [IsDouble, IsRounded] at firstDouble secondDouble <;>
    simp [rank, place, Sign.apply, infinityBits, Prod.Lex.toLex_le_toLex] <;>
    omega

theorem lt_iff_place_lt
    {first second : UnpackedFloat}
    (firstDouble : IsDouble first)
    (secondDouble : IsDouble second)
    (number : first.isNaN = false)
    (otherNumber : second.isNaN = false) :
    first.lt second = true ↔ place first < place second := by
  rcases first with
    (_ | _) | _ | _ | ⟨_ | _, mantissa, exponent, positive⟩ <;>
    rcases second with
      (_ | _) | _ | _ | ⟨_ | _, other, otherExponent, otherPositive⟩ <;>
    simp only [IsDouble, IsRounded] at firstDouble secondDouble <;>
    simp_all [UnpackedFloat.lt, UnpackedFloat.compare, UnpackedFloat.isNaN,
      place, Sign.apply, infinityBits, Ordering.then_eq_lt,
      Ordering.then_eq_gt, compare_lt_iff_lt, compare_gt_iff_gt]
  case infinity.negative.infinity.positive => rfl
  all_goals omega

/-! ## Doubles in bits -/

theorem toNat_one_append (fraction : BitVec 52) :
    (1#1 ++ fraction).toNat = 2 ^ 52 + fraction.toNat := by
  rw [BitVec.toNat_append, ← Nat.shiftLeft_add_eq_or_of_lt fraction.isLt]
  rfl

/-- A fraction behind a leading one and an exponent field that is neither the
least nor the largest one make a double. -/
theorem isDouble_of_field
    {sign : Sign}
    {mantissa fraction field : Nat}
    {exponent : Int}
    {positive : 0 < mantissa}
    (digits : mantissa = 2 ^ 52 + fraction)
    (fraction_lt : fraction < 2 ^ 52)
    (shifted : exponent = field - 1075)
    (notLeast : field ≠ 0)
    (field_lt : field < 2047) :
    IsDouble (.finite sign mantissa exponent positive) := by
  simp only [IsDouble, IsRounded]
  omega

theorem isDouble_unpack (bits : BitVec Format.binary64.numBits) :
    IsDouble (unpack Format.binary64 bits) := by
  have fraction_lt : (unpackMantissa bits).toNat < 2 ^ 52 :=
    (unpackMantissa bits).isLt
  have field_lt : (unpackExponent bits).toNat < 2 ^ 11 :=
    (unpackExponent bits).isLt
  rw [unpack]
  split
  next =>
    split
    next => trivial
    next => trivial
  next regular =>
    have notLargest : (unpackExponent bits).toNat ≠ 2047 := fun same =>
      regular (BitVec.eq_of_toNat_eq same)
    split
    next subnormal =>
      split
      next => trivial
      next =>
        simp only [IsDouble, IsRounded, subnormal, Format.exponentBias,
          BitVec.toNat_ofNat]
        norm_num
        omega
    next normal =>
      have notLeast : (unpackExponent bits).toNat ≠ 0 := fun same =>
        normal (BitVec.eq_of_toNat_eq same)
      exact isDouble_of_field (toNat_one_append (unpackMantissa bits))
        fraction_lt rfl notLeast (by omega)

theorem ofBitVec_toBitVec (sign : Sign) :
    Sign.ofBitVec sign.toBitVec = sign := by
  cases sign <;> rfl

theorem unpackSign_packComponents
    (sign : Sign)
    (field : BitVec 11)
    (fraction : BitVec 52) :
    unpackSign (packComponents Format.binary64 sign field fraction) =
      sign.toBitVec := by
  change (sign.toBitVec ++ field ++ fraction).extractLsb' 63 1 =
    sign.toBitVec
  rw [BitVec.extractLsb'_append_eq_of_le (by decide),
    BitVec.extractLsb'_append_eq_of_le (by decide)]
  cases sign <;> rfl

theorem exponentBias_eq : (Format.binary64.exponentBias : Int) = 1023 := rfl

/-- The place of what is made of a sign, an exponent field and a fraction is
the number that the field and the fraction make together. -/
theorem place_unpack_packComponents
    (sign : Sign)
    {field : BitVec 11}
    (fraction : BitVec 52)
    (finite : field ≠ -1#11) :
    place
        (unpack Format.binary64
          (packComponents Format.binary64 sign field fraction)) =
      sign.apply (field.toNat * 2 ^ 52 + fraction.toNat) := by
  simp only [unpack, unpackMantissa_packComponents,
    unpackExponent_packComponents, unpackSign_packComponents,
    ofBitVec_toBitVec, exponentBias_eq]
  rw [if_neg finite]
  split
  next subnormal =>
    rw [subnormal]
    split
    next zero =>
      cases sign <;> simp [zero, place, Sign.apply]
    next =>
      rw [place]
      norm_num
  next =>
    have digits := toNat_one_append fraction
    rw [place]
    congr 1
    omega

/-- A mantissa with all its digits and an exponent that is not too large make
a field and a fraction that together are its place. -/
theorem field_of_normal
    {mantissa : Nat}
    {exponent : Int}
    (high : 2 ^ 52 ≤ mantissa)
    (short : mantissa < 2 ^ 53)
    (least : -1074 ≤ exponent)
    (small : exponent ≤ 971) :
    BitVec.ofNat 11 (exponent + 1075).toNat ≠ -1#11 ∧
      ((BitVec.ofNat 11 (exponent + 1075).toNat).toNat * 2 ^ 52 +
          (BitVec.ofNat 52 mantissa).toNat : Int) =
        (exponent + 1074) * 2 ^ 52 + mantissa := by
  have field_toNat : (BitVec.ofNat 11 (exponent + 1075).toNat).toNat =
      (exponent + 1075).toNat := by
    rw [BitVec.toNat_ofNat]
    omega
  have fraction_toNat : (BitVec.ofNat 52 mantissa).toNat =
      mantissa - 2 ^ 52 := by
    rw [BitVec.toNat_ofNat]
    omega
  constructor
  · intro same
    have fields := congrArg BitVec.toNat same
    rw [field_toNat] at fields
    change _ = 2047 at fields
    omega
  · rw [field_toNat, fraction_toNat]
    omega

/-- What is too large for a double is packed as an infinity, everything else as
the bits of its place. -/
theorem pack_finite_cases
    {sign : Sign}
    {mantissa : Nat}
    {exponent : Int}
    {positive : 0 < mantissa}
    (rounded : IsRounded (.finite sign mantissa exponent positive)) :
    (971 < exponent ∧
      pack Format.binary64 (.finite sign mantissa exponent positive) =
        packedInfinity Format.binary64 sign) ∨
    (exponent ≤ 971 ∧ ∃ (field : BitVec 11) (fraction : BitVec 52),
      field ≠ -1#11 ∧
        (field.toNat * 2 ^ 52 + fraction.toNat : Int) =
          (exponent + 1074) * 2 ^ 52 + mantissa ∧
        pack Format.binary64 (.finite sign mantissa exponent positive) =
          packComponents Format.binary64 sign field fraction) := by
  obtain ⟨short, least, form⟩ := rounded
  have field_eq : (exponent + Format.binary64.exponentBias +
      (Format.binary64.mantissaBitsWithoutImplicit : Nat)).toNat =
      (exponent + 1075).toNat := by
    rw [exponentBias_eq, add_assoc]
    rfl
  simp only [pack, field_eq]
  split
  next large =>
    have bound : 2048 ≤ (exponent + 1075).toNat + 1 := large
    exact .inl ⟨by omega, rfl⟩
  next small =>
    have bound : ¬ 2048 ≤ (exponent + 1075).toNat + 1 := small
    refine .inr ⟨by omega, ?_⟩
    split
    next normal =>
      have log2_eq : mantissa.log2 = 52 := Nat.succ.inj normal
      have high := ((Nat.log2_eq_iff positive.ne').mp log2_eq).1
      obtain ⟨finite, same⟩ := field_of_normal high short least (by omega)
      exact ⟨_, _, finite, same, rfl⟩
    next subnormal =>
      have low : ¬ 2 ^ 52 ≤ mantissa := fun high =>
        subnormal (congrArg Nat.succ
          ((Nat.log2_eq_iff positive.ne').mpr ⟨high, short⟩))
      have fraction_toNat : (BitVec.ofNat 52 mantissa).toNat = mantissa := by
        rw [BitVec.toNat_ofNat]
        omega
      refine ⟨0#11, BitVec.ofNat 52 mantissa, by decide, ?_, rfl⟩
      have field_toNat : (0#11).toNat = 0 := rfl
      rw [field_toNat, fraction_toNat]
      omega

/-- What is packed is put at its place, or at an infinity. -/
theorem place_unpack_pack
    {number : UnpackedFloat}
    (rounded : IsRounded number) :
    place (unpack Format.binary64 (pack Format.binary64 number)) =
      clamped (place number) := by
  rcases number with
    (_ | _) | _ | (_ | _) | ⟨sign, mantissa, exponent, positive⟩
  case infinity.negative => decide
  case infinity.positive => decide
  case notANumber => decide
  case zero.negative => decide
  case zero.positive => decide
  case finite =>
    obtain ⟨short, least, form⟩ := id rounded
    rcases pack_finite_cases rounded with
      ⟨large, packed⟩ | ⟨small, field, fraction, finite, same, packed⟩
    · have infinite :
          place (unpack Format.binary64
            (packedInfinity Format.binary64 sign)) =
              sign.apply infinityBits := by
        cases sign <;> rfl
      rw [packed, infinite]
      cases sign <;>
        simp only [clamped, place, Sign.apply, infinityBits] <;> omega
    · rw [packed, place_unpack_packComponents sign fraction finite, same]
      cases sign <;>
        simp only [clamped, place, Sign.apply, infinityBits] <;> omega

/-- Packing makes no NaN. -/
theorem isNaN_unpack_pack
    {number : UnpackedFloat}
    (rounded : IsRounded number)
    (defined : number.isNaN = false) :
    (unpack Format.binary64 (pack Format.binary64 number)).isNaN = false := by
  rcases number with
    (_ | _) | _ | (_ | _) | ⟨sign, mantissa, exponent, positive⟩
  case infinity.negative => rfl
  case infinity.positive => rfl
  case notANumber => cases defined
  case zero.negative => rfl
  case zero.positive => rfl
  case finite =>
    rcases pack_finite_cases rounded with
      ⟨-, packed⟩ | ⟨-, field, fraction, finite, -, packed⟩
    · rw [packed]
      cases sign <;> rfl
    · have exponent_ne : unpackExponent (packComponents Format.binary64 sign
          field fraction) ≠ -1#11 := by
        rwa [unpackExponent_packComponents]
      have kind := (isFinite_unpack_iff _).mpr exponent_ne
      rw [packed]
      generalize unpack Format.binary64 _ = unpacked at kind ⊢
      cases unpacked <;> first | rfl | cases kind

/-! ## The row of doubles -/

/-- The place of a double in the row. -/
def placeOf (value : Float) : Int := place value.toModel.unpack

theorem isDouble (value : Float) : IsDouble value.toModel.unpack :=
  isDouble_unpack value.toBits.toBitVec

/-- Doubles are compared by their places. -/
theorem le_iff_placeOf_le (first second : Float) :
    first ≤ second ↔
      first.isNaN = false ∧ second.isNaN = false ∧
        placeOf first ≤ placeOf second := by
  rw [le_iff, rank_le_iff_place_le (isDouble first) (isDouble second)]
  rfl

theorem lt_iff_placeOf_lt
    {first second : Float}
    (number : first.isNaN = false)
    (otherNumber : second.isNaN = false) :
    first < second ↔ placeOf first < placeOf second := by
  change first.lt second = true ↔ _
  rw [Float.lt, decide_eq_true_iff]
  exact lt_iff_place_lt (isDouble first) (isDouble second) number otherNumber

theorem not_lt_iff_le
    {first second : Float}
    (number : first.isNaN = false)
    (otherNumber : second.isNaN = false) :
    ¬ first < second ↔ second ≤ first := by
  rw [lt_iff_placeOf_lt number otherNumber, le_iff_placeOf_le, not_lt]
  simp only [number, otherNumber, true_and]

theorem unpack_zero : (0.0 : Float).toModel.unpack = .zero .positive := rfl

/-- A rounded number is packed to the double at its place, or to an
infinity. -/
theorem placeOf_of_packed
    {value : Float}
    {number : UnpackedFloat}
    {spot : Int}
    (packed : value.toModel = Float.Model.pack number)
    (stands : StandsAt number spot) :
    value.isNaN = false ∧ placeOf value = clamped spot := by
  change value.toModel.unpack.isNaN = false ∧ place value.toModel.unpack = _
  rw [packed, ← stands.place_eq]
  exact ⟨isNaN_unpack_pack stands.rounded stands.defined,
    place_unpack_pack stands.rounded⟩

/-- The finite doubles stand between the infinities. -/
theorem isFinite_iff_abs_placeOf_lt
    {value : Float}
    (number : value.isNaN = false) :
    value.isFinite = true ↔ |placeOf value| < infinityBits := by
  have double := isDouble value
  change value.toModel.unpack.isNaN = false at number
  change value.toModel.unpack.isFinite = true ↔ _
  rw [placeOf]
  generalize value.toModel.unpack = unpacked at double number ⊢
  rcases unpacked with
    (_ | _) | _ | _ | ⟨_ | _, mantissa, exponent, positive⟩ <;>
    simp only [UnpackedFloat.isFinite, UnpackedFloat.isNaN, place,
      Sign.apply, infinityBits, abs_lt] at number ⊢
  case infinity.negative => decide
  case infinity.positive => decide
  case notANumber => cases number
  case zero => decide
  case finite.negative =>
    obtain ⟨⟨short, least, -⟩, largest⟩ := double
    exact iff_of_true trivial (by omega)
  case finite.positive =>
    obtain ⟨⟨short, least, -⟩, largest⟩ := double
    exact iff_of_true trivial (by omega)

/-- The largest double. -/
def largest : Float := 1.7976931348623157e308

theorem placeOf_largest : placeOf largest = infinityBits - 1 := by
  decide +kernel

theorem placeOf_neg_largest : placeOf (-largest) = -infinityBits + 1 := by
  decide +kernel

/-- Finite doubles lie between the largest one and its negative. -/
theorem between_largest
    {value : Float}
    (finite : value.isFinite = true) :
    -largest ≤ value ∧ value ≤ largest := by
  have known := isNaN_eq_false finite
  have bounds := abs_lt.mp ((isFinite_iff_abs_placeOf_lt known).mp finite)
  rw [le_iff_placeOf_le, le_iff_placeOf_le, placeOf_largest,
    placeOf_neg_largest]
  exact ⟨⟨by decide +kernel, known, by omega⟩,
    known, by decide +kernel, by omega⟩

end Toolpath.Number
