import Mathlib
import Toolpath.Number.Scan

/-!
# Doubles and their bit patterns

A finite double is read as a sign and the pattern of its magnitude.  This
module proves that nothing is lost by that: the double with the sign and the
pattern is the one that has been read.  It also identifies the doubles that
count as finite with those that are read as finite.
-/

namespace Toolpath.Number

open Float.Model (Format)
open Float.Model.UnpackedFloat

/-- The sign and the pattern that are read from a finite double make up that
double. -/
theorem ofFloat_eq_finite
    {value : Float}
    {negative : Bool}
    {magnitudeBits : Nat}
    (finite : Reading.ofFloat value = .finite negative magnitudeBits) :
    magnitudeBits < infinityBits ∧
      signedFloat negative magnitudeBits = value := by
  have bound : value.toBits.toNat < 2 ^ 64 := value.toBits.toNat_lt
  rw [Reading.ofFloat] at finite
  split at finite
  next below =>
    obtain ⟨rfl, rfl⟩ := Reading.finite.inj finite
    refine ⟨below, ?_⟩
    have all :
        (if decide (signBit ≤ value.toBits.toNat) then
          value.toBits.toNat % signBit + signBit
        else value.toBits.toNat % signBit) = value.toBits.toNat := by
      by_cases high : signBit ≤ value.toBits.toNat
      · simp only [high, decide_true, if_true]
        simp only [signBit] at high ⊢
        omega
      · simp only [high, decide_false, Bool.false_eq_true, if_false]
        simp only [signBit] at high ⊢
        omega
    rw [signedFloat, all, UInt64.ofNat_toNat, Float.ofBits_toBits]
  next =>
    split at finite
    next => cases finite
    next => cases finite

theorem toNat_unpackExponent (bits : BitVec Format.binary64.numBits) :
    (unpackExponent bits).toNat = bits.toNat / 2 ^ 52 % 2 ^ 11 := by
  rw [unpackExponent_def, BitVec.extractLsb'_toNat,
    Nat.shiftRight_eq_div_pow]

/-- The largest exponent belongs to the doubles that are not finite. -/
theorem isFinite_unpack_iff (bits : BitVec Format.binary64.numBits) :
    (unpack Format.binary64 bits).isFinite = true ↔
      unpackExponent bits ≠ -1#11 := by
  rw [unpack]
  split
  next special =>
    split
    next => simp [isFinite, special]
    next => simp [isFinite, special]
  next regular =>
    split
    next =>
      split
      next => simpa [isFinite] using regular
      next => simpa [isFinite] using regular
    next => simpa [isFinite] using regular

/-- A double counts as finite just if it is read as finite. -/
theorem isFinite_iff (value : Float) :
    value.isFinite = true ↔
      ∃ negative magnitudeBits,
        Reading.ofFloat value = .finite negative magnitudeBits := by
  let bits : BitVec Format.binary64.numBits := value.toBits.toBitVec
  have finite : value.isFinite = true ↔ unpackExponent bits ≠ -1#11 :=
    isFinite_unpack_iff bits
  have bound : value.toBits.toNat < 2 ^ 64 := value.toBits.toNat_lt
  have exponent : unpackExponent bits = -1#11 ↔
      value.toBits.toNat / 2 ^ 52 % 2 ^ 11 = 2047 := by
    rw [← BitVec.toNat_inj, toNat_unpackExponent]
    rfl
  rw [finite, Ne, exponent]
  by_cases below : value.toBits.toNat % signBit < infinityBits
  · have read : ∃ negative magnitudeBits,
        Reading.ofFloat value = .finite negative magnitudeBits :=
      ⟨_, _, if_pos below⟩
    simp only [signBit, infinityBits] at below
    exact ⟨fun _ => read, fun _ => by omega⟩
  · constructor
    · simp only [signBit, infinityBits] at below
      intro
      omega
    · rintro ⟨negative, magnitudeBits, read⟩
      rw [Reading.ofFloat, if_neg below] at read
      split at read
      next => cases read
      next => cases read

/-- A finite double is no NaN. -/
theorem isNaN_eq_false
    {value : Float}
    (finite : value.isFinite = true) :
    value.isNaN = false := by
  have unpacked : (unpack Format.binary64 value.toBits.toBitVec).isFinite =
      true :=
    finite
  change (unpack Format.binary64 value.toBits.toBitVec).isNaN = false
  generalize unpack Format.binary64 value.toBits.toBitVec = kind at unpacked ⊢
  cases kind with
  | notANumber => cases unpacked
  | infinity sign => rfl
  | zero sign => rfl
  | finite sign mantissa exponent mantissa_pos => rfl

end Toolpath.Number
