import Toolpath.Number.Scan
import Toolpath.Proofs.NearestDouble

/-!
# Numerals of doubles

The numerals that a layout makes are well formed: there are digits before the
point and after it, and no needless zeros before them.  The numeral of a finite
double without an exponent denotes that double again.
-/

namespace Toolpath.Number

/-! ## Rows of digits -/

/-- A row of at least one digit. -/
structure IsDigits (digits : List Char) : Prop where
  ne_nil : digits ≠ []
  isDigit : ∀ digit ∈ digits, digit.isDigit = true

/-- The digits of a whole number, without needless zeros before them. -/
structure IsWhole (digits : List Char) : Prop extends IsDigits digits where
  minimal : digits = ['0'] ∨ digits.head? ≠ some '0'

/-- Digits are split off a text up to the first character that is none. -/
theorem spanDigits_append
    {digits : List Char}
    (all : ∀ digit ∈ digits, digit.isDigit = true)
    {rest : List Char}
    (ends : ∀ first ∈ rest.head?, first.isDigit = false) :
    spanDigits (digits ++ rest) = (digits, rest) := by
  rw [spanDigits, List.takeWhile_append_of_pos all,
    List.dropWhile_append_of_pos all]
  cases rest with
  | nil => simp
  | cons first rest =>
      have other := ends first rfl
      simp [other]

theorem isDigits_digitsOf (value : Nat) : IsDigits (digitsOf value) where
  ne_nil := Nat.toDigits_ne_nil
  isDigit _ member :=
    Nat.isDigit_of_mem_toDigits (by decide) (by decide) member

theorem head?_digitsOf_ne_zero
    {value : Nat}
    (nonzero : value ≠ 0) :
    (digitsOf value).head? ≠ some '0' := by
  induction value using Nat.strongRecOn with
  | _ value hypothesis =>
      rw [digitsOf, Nat.toDigits_eq_if (by decide)]
      split
      next small =>
        simpa using nonzero
      next large =>
        have further := hypothesis (value / 10) (by omega) (by omega)
        rwa [List.head?_append_of_ne_nil _ Nat.toDigits_ne_nil]

theorem isWhole_digitsOf (value : Nat) : IsWhole (digitsOf value) where
  toIsDigits := isDigits_digitsOf value
  minimal := by
    by_cases zero : value = 0
    · exact .inl (by rw [zero]; rfl)
    · exact .inr (head?_digitsOf_ne_zero zero)

theorem isDigit_of_mem_zeros
    {count : Nat}
    {digit : Char}
    (member : digit ∈ zeros count) :
    digit.isDigit = true := by
  rw [List.eq_of_mem_replicate member]
  rfl

/-- A row of digits may be cut before it ends. -/
theorem IsDigits.take
    {digits : List Char}
    (row : IsDigits digits)
    {count : Nat}
    (positive : 0 < count) :
    IsDigits (digits.take count) where
  ne_nil := by
    cases digits with
    | nil => exact absurd rfl row.ne_nil
    | cons first further =>
        obtain ⟨fewer, rfl⟩ := Nat.exists_eq_succ_of_ne_zero
          (Nat.ne_of_gt positive)
        simp
  isDigit digit member := row.isDigit digit (List.mem_of_mem_take member)

theorem IsWhole.take
    {digits : List Char}
    (whole : IsWhole digits)
    {count : Nat}
    (positive : 0 < count) :
    IsWhole (digits.take count) where
  toIsDigits := whole.toIsDigits.take positive
  minimal := by
    obtain ⟨fewer, rfl⟩ := Nat.exists_eq_succ_of_ne_zero
      (Nat.ne_of_gt positive)
    rcases whole.minimal with rfl | head
    · simp
    · right
      cases digits with
      | nil => simp
      | cons first further => simpa using head

/-! ## The beginning of a number -/

/-- Whether a character is one with which a number begins. -/
def beginsNumber (first : Char) : Bool := first = '-' || first.isDigit

theorem ne_of_beginsNumber
    {first other : Char}
    (begins : beginsNumber first = true)
    (different : beginsNumber other = false) :
    first ≠ other := by
  rintro rfl
  rw [begins] at different
  cases different

/-- A number begins with a minus or a digit. -/
theorem exists_first_signCharacters
    (negative : Bool)
    {digits : List Char}
    (row : IsDigits digits)
    (rest : List Char) :
    ∃ first further,
      Numeral.signCharacters negative ++ (digits ++ rest) = first :: further ∧
        beginsNumber first = true := by
  cases negative with
  | true => exact ⟨_, _, rfl, rfl⟩
  | false =>
      obtain ⟨first, further, rfl⟩ := List.exists_cons_of_ne_nil row.ne_nil
      have digit := row.isDigit first List.mem_cons_self
      exact ⟨_, _, rfl, by simp [beginsNumber, digit]⟩

/-- A sign before digits is read, if there is one. -/
theorem readSign_append
    {sign digits : List Char}
    (signed : sign = [] ∨ sign = ['+'] ∨ sign = ['-'])
    (row : IsDigits digits)
    (rest : List Char) :
    readSign (sign ++ (digits ++ rest)) =
      (decide (sign = ['-']), digits ++ rest) := by
  rcases signed with rfl | rfl | rfl
  · obtain ⟨first, further, rfl⟩ := List.exists_cons_of_ne_nil row.ne_nil
    have digit := row.isDigit first List.mem_cons_self
    rw [List.nil_append, List.cons_append, readSign.eq_3]
    · rfl
    · rintro _ minus
      rw [(List.cons.inj minus).1] at digit
      cases digit
    · rintro _ plus
      rw [(List.cons.inj plus).1] at digit
      cases digit
  · rfl
  · rfl

theorem readSign_signCharacters
    (negative : Bool)
    {digits : List Char}
    (row : IsDigits digits)
    (rest : List Char) :
    readSign (Numeral.signCharacters negative ++ (digits ++ rest)) =
      (negative, digits ++ rest) := by
  cases negative with
  | true => exact readSign_append (.inr (.inr rfl)) row rest
  | false => exact readSign_append (.inl rfl) row rest

/-! ## Well-formed numerals -/

namespace Numeral

/-- Whether a numeral has digits before its point and after it. -/
structure WellFormed (numeral : Numeral) : Prop where
  whole : IsWhole numeral.whole
  fraction : ∀ digits ∈ numeral.fraction, IsDigits digits

theorem wellFormed_ofNat (value : Nat) : (ofNat value).WellFormed where
  whole := isWhole_digitsOf value
  fraction _ member := by cases member

end Numeral

/-- The characters of a well-formed numeral begin with a minus or a digit. -/
theorem exists_first_characters
    {numeral : Numeral}
    (wellFormed : numeral.WellFormed)
    (rest : List Char) :
    ∃ first further, numeral.characters ++ rest = first :: further ∧
      beginsNumber first = true := by
  simp only [Numeral.characters, List.append_assoc]
  exact exists_first_signCharacters numeral.negative
    wellFormed.whole.toIsDigits _

/-- Zeros may follow the digits of a number that is not zero. -/
theorem isWhole_digitsOf_append_zeros
    {value count : Nat}
    (minimal : value = 0 → count = 0) :
    IsWhole (digitsOf value ++ zeros count) where
  ne_nil := List.append_ne_nil_of_left_ne_nil (isDigits_digitsOf value).ne_nil _
  isDigit digit member := by
    rcases List.mem_append.mp member with first | zero
    · exact (isDigits_digitsOf value).isDigit digit first
    · exact isDigit_of_mem_zeros zero
  minimal := by
    by_cases zero : value = 0
    · left
      rw [zero, minimal zero]
      rfl
    · right
      rw [List.head?_append_of_ne_nil _ (isDigits_digitsOf value).ne_nil]
      exact head?_digitsOf_ne_zero zero

theorem wellFormed_positionalNumeral
    (wholeHasFraction negative : Bool)
    {decimal : Decimal}
    (minimal : decimal.digits = 0 → decimal.exponent = 0) :
    (positionalNumeral wholeHasFraction negative decimal).WellFormed := by
  have digits := isDigits_digitsOf decimal.digits
  rw [positionalNumeral]
  split
  next whole =>
    constructor
    · exact isWhole_digitsOf_append_zeros fun zero => by simp [minimal zero]
    · intro fraction member
      cases wholeHasFraction with
      | true =>
          obtain rfl := Option.some.inj member
          exact (isWhole_digitsOf 0).toIsDigits
      | false => cases member
  next fractional =>
    dsimp only
    split
    next inside =>
      constructor
      · exact (isWhole_digitsOf decimal.digits).take (by omega)
      · intro fraction member
        obtain rfl := Option.some.inj member
        constructor
        · rw [Ne, List.drop_eq_nil_iff]
          omega
        · intro digit member
          exact digits.isDigit digit (List.mem_of_mem_drop member)
    next outside =>
      constructor
      · exact isWhole_digitsOf 0
      · intro fraction member
        obtain rfl := Option.some.inj member
        constructor
        · exact List.append_ne_nil_of_right_ne_nil _ digits.ne_nil
        · intro digit member
          rcases List.mem_append.mp member with zero | last
          · exact isDigit_of_mem_zeros zero
          · exact digits.isDigit digit last

/-- With a fraction for whole numbers there is always one, and no exponent. -/
theorem positionalNumeral_parts
    (negative : Bool)
    (decimal : Decimal) :
    let numeral := positionalNumeral true negative decimal
    numeral.negative = negative ∧ numeral.fraction.isSome = true ∧
      numeral.exponent = none := by
  simp only [positionalNumeral]
  split
  next => exact ⟨rfl, rfl, rfl⟩
  next =>
    split
    next => exact ⟨rfl, rfl, rfl⟩
    next => exact ⟨rfl, rfl, rfl⟩

theorem wellFormed_scientificNumeral
    (negative : Bool)
    (scale : Int)
    (decimal : Decimal) :
    (scientificNumeral negative scale decimal).WellFormed where
  whole := (isWhole_digitsOf decimal.digits).take (by decide)
  fraction fraction member := by
    simp only [scientificNumeral] at member
    split at member
    next => cases member
    next further =>
      obtain rfl := Option.some.inj member
      constructor
      · intro none
        exact further (by rw [none]; rfl)
      · intro digit member
        exact (isDigits_digitsOf decimal.digits).isDigit digit
          (List.mem_of_mem_drop member)

/-- The shortest decimal of zero has no exponent. -/
theorem exponent_shortest_of_digits
    (tie : Tie)
    {magnitudeBits : Nat}
    (finite : magnitudeBits < infinityBits)
    (zero : (shortest tie magnitudeBits).digits = 0) :
    (shortest tie magnitudeBits).exponent = 0 := by
  have read := nearestBits_shortest tie finite
  rw [Decimal.nearestBits, if_pos zero] at read
  rw [← read]
  rfl

/-- Every numeral of a double is well formed. -/
theorem wellFormed_numeral?
    {layout : Layout}
    {value : Float}
    {numeral : Numeral}
    (spelled : layout.numeral? value = some numeral) :
    numeral.WellFormed := by
  rw [Layout.numeral?] at spelled
  split at spelled
  next negative magnitudeBits read =>
    obtain rfl := Option.some.inj spelled
    have finite := (ofFloat_eq_finite read).1
    rw [Layout.numeral]
    split
    · exact wellFormed_positionalNumeral _ _
        (exponent_shortest_of_digits layout.tie finite)
    · exact wellFormed_scientificNumeral ..
  next => cases spelled

/-! ## Values of numerals -/

theorem valueOfDigits_append_zeros (value count : Nat) :
    valueOfDigits (digitsOf value ++ zeros count) = value * 10 ^ count := by
  simp [valueOfDigits, digitsOf, zeros, Nat.ofDigitChars_append,
    Nat.ofDigitChars_replicate_zero, Nat.mul_comm]

theorem valueOfDigits_zeros_append (count value : Nat) :
    valueOfDigits (zeros count ++ digitsOf value) = value := by
  simp [valueOfDigits, digitsOf, zeros, Nat.ofDigitChars_append,
    Nat.ofDigitChars_replicate_zero]

/-- A whole number gets one more zero when it is written with a fraction. -/
theorem decimal_positionalNumeral_natCast
    (negative : Bool)
    (digits exponent : Nat) :
    (positionalNumeral true negative ⟨digits, exponent⟩).decimal =
      ⟨digits * 10 ^ (exponent + 1), -1⟩ := by
  have zeros_eq : zeros exponent ++ ['0'] = zeros (exponent + 1) :=
    List.replicate_succ'.symm
  simp [positionalNumeral, Numeral.decimal, zeros_eq,
    valueOfDigits_append_zeros]

/-- A point among the digits of a decimal, or before them, does not change what
the decimal is. -/
theorem decimal_positionalNumeral_of_neg
    (wholeHasFraction negative : Bool)
    {decimal : Decimal}
    (fractional : ¬ 0 ≤ decimal.exponent) :
    (positionalNumeral wholeHasFraction negative decimal).decimal =
      decimal := by
  obtain ⟨digits, exponent⟩ := decimal
  simp only at fractional
  simp only [positionalNumeral, if_neg fractional]
  split
  next inside =>
    simp only [Numeral.decimal, Option.getD_some, Option.getD_none,
      List.take_append_drop, valueOfDigits_digitsOf, List.length_drop,
      Decimal.mk.injEq, true_and]
    omega
  next outside =>
    have zeros_eq (count : Nat) : ['0'] ++ zeros count = zeros (count + 1) :=
      List.replicate_succ.symm
    have length_eq (count : Nat) : (zeros count).length = count :=
      List.length_replicate
    simp only [Numeral.decimal, Option.getD_some, Option.getD_none,
      ← List.append_assoc, zeros_eq, valueOfDigits_zeros_append,
      List.length_append, length_eq, Decimal.mk.injEq, true_and]
    omega

/-- A decimal that is written with a point denotes the same double as before. -/
theorem nearestBits_positionalNumeral
    (negative : Bool)
    {decimal : Decimal}
    (finite : decimal.nearestBits < infinityBits) :
    (positionalNumeral true negative decimal).decimal.nearestBits =
      decimal.nearestBits := by
  by_cases whole : 0 ≤ decimal.exponent
  · obtain ⟨digits, exponent⟩ := decimal
    obtain ⟨places, rfl⟩ := Int.eq_ofNat_of_zero_le whole
    rw [decimal_positionalNumeral_natCast]
    exact Decimal.nearestBits_mul_ten finite
  · rw [decimal_positionalNumeral_of_neg true negative whole]

/-- A numeral with a point is written for every finite double, and it denotes
that double. -/
theorem toFinite?_positionalNumeral_shortest
    (tie : Tie)
    {value : Float}
    {negative : Bool}
    {magnitudeBits : Nat}
    (finite : Reading.ofFloat value = .finite negative magnitudeBits) :
    (positionalNumeral true negative (shortest tie magnitudeBits)).toFinite? =
      some value := by
  obtain ⟨below, same⟩ := ofFloat_eq_finite finite
  have read := nearestBits_shortest tie below
  have nearest :
      (positionalNumeral true negative
        (shortest tie magnitudeBits)).decimal.nearestBits = magnitudeBits := by
    rw [nearestBits_positionalNumeral negative (by rwa [read]), read]
  have sign :=
    (positionalNumeral_parts negative (shortest tie magnitudeBits)).1
  rw [Numeral.toFinite?, nearest, if_pos below, Numeral.toFloat,
    Decimal.nearest, nearest, sign, same]

end Toolpath.Number
