import Mathlib

/-!
# The order of doubles

Comparisons with a NaN are false.  All other doubles, infinities included, are
compared by a rank in a linear order, so that "at most" is a total preorder on
them.  A NaN operand makes the result of an arithmetic operation a NaN.
-/

namespace Toolpath.Number

open Float.Model (Format UnpackedFloat)

/-! ## Ranks -/

/-- What a double is compared by: the infinities are outermost, zeros lie
between the signs, and numbers of one sign are ordered by their exponents
first. -/
def rank : UnpackedFloat → Int ×ₗ Int ×ₗ Int
  | .infinity .negative => toLex (-2, toLex (0, 0))
  | .finite .negative mantissa exponent _ =>
    toLex (-1, toLex (-exponent, -(mantissa : Int)))
  | .notANumber => toLex (0, toLex (0, 0))
  | .zero _ => toLex (0, toLex (0, 0))
  | .finite .positive mantissa exponent _ =>
    toLex (1, toLex (exponent, (mantissa : Int)))
  | .infinity .positive => toLex (2, toLex (0, 0))

/-- Exponents decide between two numbers, mantissas between equal exponents. -/
theorem isLE_then_iff (exponent otherExponent : Int) (mantissa other : Nat) :
    ((compare exponent otherExponent).then
        (compare mantissa other)).isLE = true ↔
      exponent < otherExponent ∨
        exponent = otherExponent ∧ mantissa ≤ other := by
  rcases lt_trichotomy exponent otherExponent with below | rfl | above
  · simp [compare_lt_iff_lt.mpr below, below]
  · simp [Nat.isLE_compare]
  · simp [compare_gt_iff_gt.mpr above, above.not_gt, above.ne']

/-- Below zero the comparison is the other way round. -/
theorem isGE_then_iff (exponent otherExponent : Int) (mantissa other : Nat) :
    ((compare exponent otherExponent).then
        (compare mantissa other)).isGE = true ↔
      otherExponent < exponent ∨
        exponent = otherExponent ∧ other ≤ mantissa := by
  rw [← Ordering.isLE_swap, Ordering.swap_then, Int.compare_swap,
    Nat.compare_swap, isLE_then_iff, eq_comm]

/-- Numbers other than NaN are compared by their ranks. -/
theorem le_iff_rank_le (first second : UnpackedFloat) :
    first.le second = true ↔
      first.isNaN = false ∧ second.isNaN = false ∧
        rank first ≤ rank second := by
  -- Between different kinds or signs the first part of the rank decides, so
  -- that evaluation is enough.
  rcases first with (_ | _) | _ | _ | ⟨_ | _, _, _, _⟩ <;>
    rcases second with (_ | _) | _ | _ | ⟨_ | _, _, _, _⟩ <;>
    simp [UnpackedFloat.le, UnpackedFloat.compare, UnpackedFloat.isNaN,
      rank, Prod.Lex.toLex_le_toLex]
  case infinity.negative.infinity.negative => decide
  case infinity.negative.infinity.positive => decide
  case infinity.positive.infinity.negative => decide
  case infinity.positive.infinity.positive => decide
  case finite.negative.finite.negative => exact isGE_then_iff _ _ _ _
  case finite.positive.finite.positive => exact isLE_then_iff _ _ _ _

/-! ## Comparing doubles -/

theorem le_iff (first second : Float) :
    first ≤ second ↔
      first.isNaN = false ∧ second.isNaN = false ∧
        rank first.toModel.unpack ≤ rank second.toModel.unpack := by
  change first.le second = true ↔ _
  rw [Float.le, decide_eq_true_iff]
  exact le_iff_rank_le first.toModel.unpack second.toModel.unpack

theorem le_trans
    {first second third : Float}
    (lower : first ≤ second)
    (upper : second ≤ third) :
    first ≤ third := by
  obtain ⟨number, -, belowSecond⟩ := (le_iff first second).mp lower
  obtain ⟨-, bound, belowThird⟩ := (le_iff second third).mp upper
  exact (le_iff first third).mpr
    ⟨number, bound, belowSecond.trans belowThird⟩

/-- Any two numbers can be compared. -/
theorem le_of_not_le
    {first second : Float}
    (firstNumber : first.isNaN = false)
    (secondNumber : second.isNaN = false)
    (notBelow : ¬ first ≤ second) :
    second ≤ first := by
  rcases le_total (rank first.toModel.unpack) (rank second.toModel.unpack)
    with below | above
  · exact (notBelow
      ((le_iff first second).mpr
        ⟨firstNumber, secondNumber, below⟩)).elim
  · exact (le_iff second first).mpr ⟨secondNumber, firstNumber, above⟩

theorem not_le_of_isNaN
    {first : Float}
    (undefined : first.isNaN = true)
    (second : Float) :
    ¬ first ≤ second := by
  intro below
  have number := ((le_iff first second).mp below).1
  rw [undefined] at number
  cases number

theorem not_le_isNaN
    {second : Float}
    (undefined : second.isNaN = true)
    (first : Float) :
    ¬ first ≤ second := by
  intro below
  have number := ((le_iff first second).mp below).2.1
  rw [undefined] at number
  cases number

/-- A number equals itself. -/
theorem beq_self
    {value : Float}
    (number : value.isNaN = false) :
    (value == value) = true := by
  change value.toModel.unpack.beq value.toModel.unpack = true
  have kind : value.toModel.unpack.isNaN = false := number
  generalize value.toModel.unpack = unpacked at kind ⊢
  cases unpacked with
  | notANumber => cases kind
  | infinity sign => cases sign <;> rfl
  | zero sign => rfl
  | finite sign mantissa exponent positive =>
      cases sign <;> simp [UnpackedFloat.beq, UnpackedFloat.compare]

/-! ## NaN operands -/

theorem isNaN_iff (value : Float) :
    value.isNaN = true ↔ value.toModel.unpack = .notANumber := by
  change value.toModel.unpack.isNaN = true ↔ _
  cases value.toModel.unpack <;> simp [UnpackedFloat.isNaN]

/-- Packing keeps a NaN. -/
theorem isNaN_of_packed
    {value : Float}
    {result : UnpackedFloat}
    (packed : value.toModel = Float.Model.pack result)
    (undefined : result = .notANumber) :
    value.isNaN = true := by
  rw [isNaN_iff, packed, undefined]
  rfl

/-- An operation that answers each NaN operand with NaN does so for doubles. -/
theorem isNaN_of_operand
    {operation : UnpackedFloat → UnpackedFloat → UnpackedFloat}
    (left : ∀ other, operation .notANumber other = .notANumber)
    (right : ∀ other, operation other .notANumber = .notANumber)
    {first second value : Float}
    (packed :
      value.toModel =
        Float.Model.pack
          (operation first.toModel.unpack second.toModel.unpack))
    (undefined : first.isNaN = true ∨ second.isNaN = true) :
    value.isNaN = true := by
  refine isNaN_of_packed packed ?_
  rw [isNaN_iff, isNaN_iff] at undefined
  rcases undefined with first | second
  · rw [first, left]
  · rw [second, right]

theorem isNaN_sub
    {first second : Float}
    (undefined : first.isNaN = true ∨ second.isNaN = true) :
    (first - second).isNaN = true :=
  isNaN_of_operand (fun _ => rfl) (fun other => by cases other <;> rfl) rfl
    undefined

theorem isNaN_add
    {first second : Float}
    (undefined : first.isNaN = true ∨ second.isNaN = true) :
    (first + second).isNaN = true :=
  isNaN_of_operand (fun _ => rfl) (fun other => by cases other <;> rfl) rfl
    undefined

theorem isNaN_mul
    {first second : Float}
    (undefined : first.isNaN = true ∨ second.isNaN = true) :
    (first * second).isNaN = true :=
  isNaN_of_operand (fun _ => rfl) (fun other => by cases other <;> rfl) rfl
    undefined

theorem isNaN_sqrt
    {value : Float}
    (undefined : value.isNaN = true) :
    value.sqrt.isNaN = true := by
  refine isNaN_of_packed rfl ?_
  rw [(isNaN_iff value).mp undefined]
  rfl

end Toolpath.Number
