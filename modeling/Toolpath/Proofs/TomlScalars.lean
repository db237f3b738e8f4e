import Toolpath.Proofs.Numerals
import Toolpath.Proofs.TomlTexts
import Toolpath.Toml.Scalar

/-!
# Numbers and truth values in TOML

Numbers are read after dates and times, and floats before integers.  This
module proves that what is written for a number is none of the former: its
first digits are followed by a point or by the end of the line.  A natural
number is then read as an integer, and a finite double as itself.
-/

namespace Toolpath.Toml

open Number (IsDigits IsWhole Numeral beginsNumber ne_of_beginsNumber)

/-! ## Dates and times -/

section Dates

variable
    {digits : List Char}
    (all : ∀ digit ∈ digits, digit.isDigit = true)
    {mark : Char}
    (no_digit : mark.isDigit = false)
    {rest : List Char}

include all no_digit

/-- Digits are read as far as they go; what follows is one more of them, or the
mark after them. -/
theorem readFixed?_eq_some
    {count value : Nat}
    (positive : 0 < count)
    {after : List Char}
    (read : readFixed? count (digits ++ mark :: rest) = some (value, after)) :
    digits ≠ [] ∧
      ∃ first further, after = first :: further ∧
        (first.isDigit = true ∨ first = mark) := by
  rw [readFixed?] at read
  split at read
  next fixed =>
    have enough : count ≤ digits.length := by
      apply Nat.not_lt.mp
      intro short
      obtain ⟨more, rfl⟩ := Nat.exists_eq_add_of_lt short
      have member : mark ∈ (digits ++ mark :: rest).take
          (digits.length + more + 1) := by
        rw [List.take_append]
        simp [Nat.add_assoc]
      have digit := List.all_eq_true.mp fixed.2 mark member
      rw [no_digit] at digit
      cases digit
    obtain ⟨-, rfl⟩ := Prod.mk.inj (Option.some.inj read)
    constructor
    · rintro rfl
      exact absurd (Nat.lt_of_lt_of_le positive enough) (by decide)
    · rw [List.drop_append_of_le_length enough]
      cases left : digits.drop count with
      | nil => exact ⟨mark, rest, rfl, .inr rfl⟩
      | cons first further =>
          have member : first ∈ digits :=
            List.mem_of_mem_drop (left ▸ List.mem_cons_self)
          exact ⟨first, _, rfl, .inl (all first member)⟩
  next => cases read

/-- No other character is found after a row of digits than the mark. -/
theorem readMark?_of_readFixed?
    {other : Char}
    (plain : digits = [] ∨ mark ≠ other)
    (no_digit_other : other.isDigit = false)
    {count value : Nat}
    (positive : 0 < count)
    {after : List Char}
    (read : readFixed? count (digits ++ mark :: rest) = some (value, after)) :
    readMark? other after = none := by
  obtain ⟨some_digits, first, further, rfl, kind⟩ :=
    readFixed?_eq_some all no_digit positive read
  have different : first ≠ other := by
    rintro rfl
    rcases kind with digit | rfl
    · rw [no_digit_other] at digit
      cases digit
    · exact plain.resolve_left some_digits rfl
  simp [readMark?, different]

/-- Digits are no date or time unless a dash or a colon stands after them. -/
theorem readDateTime?_eq_none
    (plain : digits = [] ∨ mark ≠ '-' ∧ mark ≠ ':') :
    readDateTime? (digits ++ mark :: rest) = none := by
  have date : readDate? (digits ++ mark :: rest) = none := by
    rw [readDate?]
    cases read : readFixed? 4 (digits ++ mark :: rest) with
    | none => rfl
    | some found =>
        have dash := readMark?_of_readFixed? all no_digit
          (plain.imp_right And.left) (by decide) (by decide) read
        simp only [bind, Option.bind, dash]
  have time : readHourMinute? (digits ++ mark :: rest) = none := by
    rw [readHourMinute?]
    cases read : readFixed? 2 (digits ++ mark :: rest) with
    | none => rfl
    | some found =>
        have colon := readMark?_of_readFixed? all no_digit
          (plain.imp_right And.right) (by decide) (by decide) read
        simp only [bind, Option.bind, colon]
  rw [readDateTime?, date]
  simp only [readTime?, time, bind, Option.bind]

end Dates

/-! ## Numbers -/

section Digits

variable
    {mark : Char}
    (no_digit : mark.isDigit = false)
    (no_underscore : mark ≠ '_')
    (rest : List Char)

include no_digit no_underscore

/-- Digits without underscores are read as they are. -/
theorem spanGrouped_append
    {digits : List Char}
    (all : ∀ digit ∈ digits, digit.isDigit = true) :
    spanGrouped Char.isDigit (digits ++ mark :: rest) =
      (digits, mark :: rest) := by
  induction digits with
  | nil =>
      rw [List.nil_append, spanGrouped.eq_2, if_neg (by simp [no_digit])]
      intro _ _ underscore
      exact absurd underscore no_underscore
  | cons digit digits hypothesis =>
      obtain ⟨first, further⟩ := List.forall_mem_cons.mp all
      rw [List.cons_append, spanGrouped.eq_2, if_pos first, hypothesis further]
      rintro _ _ rfl
      cases first

theorem readGrouped?_append
    {digits : List Char}
    (row : IsDigits digits) :
    readGrouped? Char.isDigit (digits ++ mark :: rest) =
      some (digits, mark :: rest) := by
  obtain ⟨digit, digits, rfl⟩ := List.exists_cons_of_ne_nil row.ne_nil
  obtain ⟨first, further⟩ := List.forall_mem_cons.mp row.isDigit
  rw [List.cons_append, readGrouped?, if_pos first,
    spanGrouped_append no_digit no_underscore rest further]

theorem readWhole?_append
    {digits : List Char}
    (whole : IsWhole digits) :
    readWhole? (digits ++ mark :: rest) = some (digits, mark :: rest) := by
  rcases whole.minimal with rfl | head
  · rfl
  · rw [readWhole?.eq_2, readGrouped?_append no_digit no_underscore rest
      whole.toIsDigits]
    obtain ⟨digit, digits, rfl⟩ := List.exists_cons_of_ne_nil whole.ne_nil
    intro _ zero
    exact head (congrArg some (List.cons.inj zero).1)

end Digits

/-- A numeral with a point and no exponent is read to the end of its line. -/
theorem readNumeral?_append
    {numeral : Numeral}
    (wellFormed : numeral.WellFormed)
    (fraction : numeral.fraction.isSome = true)
    (exponent : numeral.exponent = none)
    (rest : List Char) :
    readNumeral? (numeral.characters ++ '\n' :: rest) =
      some (numeral, '\n' :: rest) := by
  obtain ⟨negative, whole, fraction, exponent⟩ := numeral
  obtain rfl := exponent
  obtain ⟨digits, rfl⟩ := Option.isSome_iff_exists.mp fraction
  obtain ⟨wholeDigits, fractionDigits⟩ := wellFormed
  simp only at wholeDigits fractionDigits
  have sign := Number.readSign_signCharacters negative wholeDigits.toIsDigits
    ('.' :: (digits ++ '\n' :: rest))
  have readWhole := readWhole?_append
    (by decide : Char.isDigit '.' = false) (by decide)
    (digits ++ '\n' :: rest) wholeDigits
  have readFraction := readGrouped?_append
    (by decide : Char.isDigit '\n' = false) (by decide) rest
    (fractionDigits digits rfl)
  have readExponent : readGroupedExponent? ('\n' :: rest) =
      some (none, '\n' :: rest) :=
    rfl
  simp only [Numeral.characters, Numeral.fractionCharacters,
    Numeral.exponentCharacters, List.append_assoc, List.cons_append,
    List.nil_append]
  simp only [readNumeral?, sign, readWhole, readGroupedFraction?, readFraction,
    readExponent, bind, Option.bind, Option.map_some]
  rfl

/-- A row of digits has no mark of a base before it. -/
theorem readUnbounded?_append
    {digits : List Char}
    (whole : IsWhole digits)
    (rest : List Char) :
    readUnbounded? (digits ++ '\n' :: rest) =
      some ((Number.valueOfDigits digits : Int), '\n' :: rest) := by
  have sign := Number.readSign_signCharacters false whole.toIsDigits ('\n' :: rest)
  have readWhole := readWhole?_append
    (by decide : Char.isDigit '\n' = false) (by decide) rest whole
  have decimal : readDecimal? (digits ++ '\n' :: rest) =
      some ((Number.valueOfDigits digits : Int), '\n' :: rest) := by
    rw [Numeral.signCharacters, List.nil_append] at sign
    simp only [readDecimal?, sign, readWhole, bind, Option.bind]
    rfl
  rcases whole.minimal with rfl | head
  · rfl
  · have no_zero : ∀ further, digits ++ '\n' :: rest ≠ '0' :: further := by
      obtain ⟨digit, digits, rfl⟩ := List.exists_cons_of_ne_nil whole.ne_nil
      intro _ zero
      exact head (congrArg some (List.cons.inj zero).1)
    rw [readUnbounded?.eq_4, decimal]
    · exact fun _ => no_zero _
    · exact fun _ => no_zero _
    · exact fun _ => no_zero _

/-- A natural number is read as an integer. -/
theorem readInteger?_append
    {value : Nat}
    (word : value < 2 ^ 63)
    (rest : List Char) :
    readInteger? (Number.digitsOf value ++ '\n' :: rest) =
      some ((value : Int), '\n' :: rest) := by
  have fits : isWord value = true := by
    simp only [isWord, Bool.and_eq_true, decide_eq_true_eq]
    omega
  rw [readInteger?, readUnbounded?_append (Number.isWhole_digitsOf value)]
  simp only [Number.valueOfDigits_digitsOf, fits, if_true]

/-- A number begins with a sign or a digit. -/
theorem exists_first_digitsOf (value : Nat) (rest : List Char) :
    ∃ first further,
      Number.digitsOf value ++ '\n' :: rest = first :: further ∧
        beginsNumber first = true :=
  Number.exists_first_signCharacters false (Number.isDigits_digitsOf value)
    ('\n' :: rest)

/-- Digits alone are no float. -/
theorem readFloat?_natural
    (value : Nat)
    (rest : List Char) :
    readFloat? (Number.digitsOf value ++ '\n' :: rest) = none := by
  have whole := Number.isWhole_digitsOf value
  have sign := Number.readSign_signCharacters false whole.toIsDigits
    ('\n' :: rest)
  have readWhole := readWhole?_append
    (by decide : Char.isDigit '\n' = false) (by decide) rest whole
  have readFraction : readGroupedFraction? ('\n' :: rest) =
      some (none, '\n' :: rest) :=
    rfl
  have readExponent : readGroupedExponent? ('\n' :: rest) =
      some (none, '\n' :: rest) :=
    rfl
  rw [Numeral.signCharacters, List.nil_append] at sign
  have no_numeral :
      readNumeral? (Number.digitsOf value ++ '\n' :: rest) = none := by
    simp [readNumeral?, sign, readWhole, readFraction, readExponent]
  obtain ⟨first, further, same, begins⟩ := exists_first_digitsOf value rest
  simp only [readFloat?, no_numeral, sign]
  rw [same]
  split
  next word =>
    exact absurd (List.cons.inj word).1 (ne_of_beginsNumber begins rfl)
  next word =>
    exact absurd (List.cons.inj word).1 (ne_of_beginsNumber begins rfl)
  next => rfl

/-- What a numeral needs to be read as a float on a line of its own. -/
structure IsFloat (numeral : Numeral) : Prop where
  wellFormed : numeral.WellFormed
  fraction : numeral.fraction.isSome = true
  exponent : numeral.exponent = none

/-- A finite double is written as the numeral of a float, which denotes it. -/
theorem exists_isFloat
    {value : Float}
    (finite : value.isFinite = true) :
    ∃ numeral, floatCharacters value = numeral.characters ∧
      IsFloat numeral ∧ numeral.toFinite? = some value := by
  obtain ⟨negative, magnitudeBits, read⟩ := (Number.isFinite_iff value).mp finite
  let numeral := Number.positionalNumeral true negative
    (Number.shortest .up magnitudeBits)
  obtain ⟨-, fraction, exponent⟩ :=
    Number.positionalNumeral_parts negative (Number.shortest .up magnitudeBits)
  refine ⟨numeral, ?_, ⟨?_, fraction, exponent⟩,
    Number.toFinite?_positionalNumeral_shortest .up read⟩
  · rw [floatCharacters, Number.isNaN_eq_false finite,
      Number.Layout.characters, read]
    rfl
  · exact Number.wellFormed_positionalNumeral true negative
      (Number.exponent_shortest_of_digits .up (Number.ofFloat_eq_finite read).1)

theorem exists_first_floatCharacters
    {value : Float}
    (finite : value.isFinite = true)
    (rest : List Char) :
    ∃ first further,
      floatCharacters value ++ '\n' :: rest = first :: further ∧
        beginsNumber first = true := by
  obtain ⟨numeral, written, isFloat, -⟩ := exists_isFloat finite
  rw [written]
  exact Number.exists_first_characters isFloat.wellFormed ('\n' :: rest)

theorem readFloat?_characters
    {numeral : Numeral}
    (isFloat : IsFloat numeral)
    {value : Float}
    (denotes : numeral.toFinite? = some value)
    (rest : List Char) :
    readFloat? (numeral.characters ++ '\n' :: rest) =
      some (value, '\n' :: rest) := by
  have read := readNumeral?_append isFloat.wellFormed isFloat.fraction
    isFloat.exponent rest
  have same : numeral.toFloat = value := by
    rw [Numeral.toFinite?] at denotes
    split at denotes
    next => exact Option.some.inj denotes
    next => cases denotes
  simp [readFloat?, read, denotes, same]

/-- The numeral of a float is no date or time: it has a minus, or a point after
its first digits. -/
theorem readDateTime?_characters
    {numeral : Numeral}
    (isFloat : IsFloat numeral)
    (rest : List Char) :
    readDateTime? (numeral.characters ++ '\n' :: rest) = none := by
  obtain ⟨negative, whole, fraction, exponent⟩ := numeral
  obtain ⟨wellFormed, isSome, -⟩ := isFloat
  obtain ⟨digits, rfl⟩ := Option.isSome_iff_exists.mp isSome
  simp only [Numeral.characters, Numeral.fractionCharacters,
    List.append_assoc, List.cons_append]
  cases negative with
  | true =>
      exact @readDateTime?_eq_none [] (by simp) '-' (by decide) _ (.inl rfl)
  | false =>
      exact readDateTime?_eq_none wellFormed.whole.isDigit
        (by decide : Char.isDigit '.' = false) (.inr (by decide))

/-! ## Scalars -/

/-- A number is read as a float or else as an integer, if it is no date. -/
theorem readScalar?_number
    {first : Char}
    (begins : beginsNumber first = true)
    {further : List Char}
    (no_date : readDateTime? (first :: further) = none) :
    readScalar? (first :: further) =
      match readFloat? (first :: further) with
      | some (value, rest) => some (.float value, rest)
      | none =>
        (readInteger? (first :: further)).map fun (value, rest) =>
          (.integer value, rest) := by
  rw [readScalar?.eq_3, no_date]
  · cases readFloat? (first :: further) with
    | some read => rfl
    | none =>
        cases readInteger? (first :: further) with
        | some read => rfl
        | none => rfl
  · intro _ word
    exact ne_of_beginsNumber begins rfl (List.cons.inj word).1
  · intro _ word
    exact ne_of_beginsNumber begins rfl (List.cons.inj word).1

theorem readScalar?_natural
    {value : Nat}
    (word : value < 2 ^ 63)
    (rest : List Char) :
    readScalar? (Number.digitsOf value ++ '\n' :: rest) =
      some (.integer value, '\n' :: rest) := by
  have digits := Number.isDigits_digitsOf value
  have no_date : readDateTime? (Number.digitsOf value ++ '\n' :: rest) = none :=
    readDateTime?_eq_none digits.isDigit
      (by decide : Char.isDigit '\n' = false) (.inr (by decide))
  have no_float := readFloat?_natural value rest
  have read := readInteger?_append word rest
  obtain ⟨first, further, same, begins⟩ := exists_first_digitsOf value rest
  rw [same] at no_date no_float read ⊢
  rw [readScalar?_number begins no_date, no_float, read]
  rfl

theorem readScalar?_float
    {value : Float}
    (finite : value.isFinite = true)
    (rest : List Char) :
    readScalar? (floatCharacters value ++ '\n' :: rest) =
      some (.float value, '\n' :: rest) := by
  obtain ⟨numeral, written, isFloat, denotes⟩ := exists_isFloat finite
  have no_date := readDateTime?_characters isFloat rest
  have read := readFloat?_characters isFloat denotes rest
  obtain ⟨first, further, same, begins⟩ :=
    exists_first_floatCharacters finite rest
  rw [← written, same] at no_date read
  rw [same, readScalar?_number begins no_date, read]

end Toolpath.Toml
