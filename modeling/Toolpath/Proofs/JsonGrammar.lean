import Toolpath.Json.Reader
import Toolpath.Proofs.Numerals

/-!
# The grammar of JSON

How a value may be spelled: blanks may stand between any two tokens, a
character of a text may be written as it is or as an escape, and a number may
have its exponent in several forms.  `Spelled` says which texts spell a value,
and also which ones spell the elements of an array or the members of an object
up to its end.

The main statement is that the reader understands every spelling: of a text
that begins with one it reads the value, and leaves the rest.
-/

namespace Toolpath.Json

open Number (IsDigits IsWhole Numeral beginsNumber ne_of_beginsNumber)

/-! ## Blanks -/

/-- A row of blanks, which may be empty. -/
def IsBlank (text : List Char) : Prop :=
  ∀ character ∈ text, isSpace character = true

theorem isBlank_nil : IsBlank [] := by simp [IsBlank]

/-- The blanks before a token are skipped, and no more. -/
theorem skipSpace_append
    {blanks : List Char}
    (blank : IsBlank blanks)
    {first : Char}
    (visible : isSpace first = false)
    (rest : List Char) :
    skipSpace (blanks ++ first :: rest) = first :: rest := by
  rw [skipSpace, List.dropWhile_append_of_pos blank]
  simp [visible]

theorem skipSpace_blank
    {blanks : List Char}
    (blank : IsBlank blanks) :
    skipSpace blanks = [] := by
  rw [skipSpace, ← List.append_nil blanks,
    List.dropWhile_append_of_pos blank]
  rfl

/-! ## Numbers -/

/-- The spellings of an exponent, which may be missing. -/
inductive SpelledExponent : Option Int → List Char → Prop where
  | missing : SpelledExponent none []
  | written
      {mark : Char}
      (marked : mark = 'e' ∨ mark = 'E')
      {sign : List Char}
      (signed : sign = [] ∨ sign = ['+'] ∨ sign = ['-'])
      {digits : List Char}
      (row : IsDigits digits) :
      SpelledExponent
        (some
          (if sign = ['-'] then -(Number.valueOfDigits digits : Int)
            else Number.valueOfDigits digits))
        (mark :: sign ++ digits)

/-- The spellings of a number. -/
structure SpelledNumber
    (numeral : Numeral)
    (text : List Char) : Prop where
  wellFormed : numeral.WellFormed
  exponent : ∃ exponentText,
    SpelledExponent numeral.exponent exponentText ∧
      text =
        Numeral.signCharacters numeral.negative ++ numeral.whole
          ++ Numeral.fractionCharacters numeral.fraction ++ exponentText

/-- Whether a number ends where the given text begins. -/
def EndsNumber (rest : List Char) : Prop :=
  ∀ first ∈ rest.head?,
    first.isDigit = false ∧ first ≠ '.' ∧ first ≠ 'e' ∧ first ≠ 'E'

section Numbers

variable {rest : List Char}

theorem readWhole?_append
    {whole : List Char}
    (wellFormed : IsWhole whole)
    (ends : ∀ first ∈ rest.head?, first.isDigit = false) :
    readWhole? (whole ++ rest) = some (whole, rest) := by
  rcases wellFormed.minimal with rfl | head
  · rfl
  · obtain ⟨first, further, rfl⟩ :=
      List.exists_cons_of_ne_nil wellFormed.ne_nil
    have span := Number.spanDigits_append wellFormed.isDigit ends
    rw [readWhole?.eq_2, span]
    rintro rest same
    rw [List.cons_append, List.cons.injEq] at same
    exact head (congrArg some same.1)

theorem readFraction?_append
    {fraction : Option (List Char)}
    (wellFormed : ∀ digits ∈ fraction, IsDigits digits)
    (ends : ∀ first ∈ rest.head?, first.isDigit = false ∧ first ≠ '.') :
    readFraction? (Numeral.fractionCharacters fraction ++ rest) =
      some (fraction, rest) := by
  cases fraction with
  | some digits =>
      have row := wellFormed digits rfl
      have span := Number.spanDigits_append row.isDigit
        fun first head => (ends first head).1
      obtain ⟨first, further, rfl⟩ := List.exists_cons_of_ne_nil row.ne_nil
      simp only [Numeral.fractionCharacters, List.cons_append] at span ⊢
      simp only [readFraction?, span]
  | none =>
      rw [Numeral.fractionCharacters, List.nil_append, readFraction?.eq_2]
      rintro further rfl
      exact (ends '.' rfl).2 rfl

theorem readExponent?_append
    {sign digits : List Char}
    (signed : sign = [] ∨ sign = ['+'] ∨ sign = ['-'])
    (row : IsDigits digits)
    (ends : ∀ first ∈ rest.head?, first.isDigit = false) :
    Number.readExponent? (sign ++ (digits ++ rest)) =
      some
        (if sign = ['-'] then -(Number.valueOfDigits digits : Int)
          else Number.valueOfDigits digits, rest) := by
  have span := Number.spanDigits_append row.isDigit ends
  rw [Number.readExponent?, Number.readSign_append signed row]
  obtain ⟨first, further, rfl⟩ := List.exists_cons_of_ne_nil row.ne_nil
  simp only [span, decide_eq_true_eq]

theorem SpelledExponent.read
    {exponent : Option Int}
    {text : List Char}
    (spelled : SpelledExponent exponent text)
    (ends : EndsNumber rest) :
    Number.readMarkedExponent? (text ++ rest) = some (exponent, rest) := by
  have noDigit : ∀ first ∈ rest.head?, first.isDigit = false :=
    fun first head => (ends first head).1
  cases spelled with
  | missing =>
      cases rest with
      | nil => rfl
      | cons first rest =>
          have other := ends first rfl
          simp [Number.readMarkedExponent?, other]
  | written marked signed row =>
      have read := readExponent?_append signed row noDigit
      simp only [List.cons_append, List.append_assoc]
      rw [Number.readMarkedExponent?, if_pos marked, read]
      rfl

/-- An exponent, or what stands in its place, goes on with no digit. -/
theorem SpelledExponent.head?_append
    {exponent : Option Int}
    {text : List Char}
    (spelled : SpelledExponent exponent text)
    (ends : EndsNumber rest) :
    ∀ first ∈ (text ++ rest).head?, first.isDigit = false ∧ first ≠ '.' := by
  cases spelled with
  | missing => exact fun first head => ⟨(ends first head).1, (ends first head).2.1⟩
  | written marked signed row =>
      rintro first head
      obtain rfl := Option.some.inj head
      rcases marked with rfl | rfl
      · decide
      · decide

/-- The reader reads every spelling of a number. -/
theorem SpelledNumber.read
    {numeral : Numeral}
    {text : List Char}
    (spelled : SpelledNumber numeral text)
    (ends : EndsNumber rest) :
    readNumber? (text ++ rest) = some (numeral, rest) := by
  obtain ⟨wellFormed, exponentText, exponent, rfl⟩ := spelled
  obtain ⟨negative, whole, fraction, power⟩ := numeral
  have afterFraction := exponent.head?_append ends
  have afterWhole : ∀ first ∈
      (Numeral.fractionCharacters fraction
        ++ (exponentText ++ rest)).head?, first.isDigit = false := by
    cases fraction with
    | some digits =>
        rintro first head
        obtain rfl := Option.some.inj head
        rfl
    | none => exact fun first head => (afterFraction first head).1
  have readWhole := readWhole?_append wellFormed.whole afterWhole
  have readFraction := readFraction?_append wellFormed.fraction afterFraction
  have readExponent := exponent.read ends
  have digits := wellFormed.whole.toIsDigits
  simp only at readWhole readFraction readExponent digits
  simp only [List.append_assoc, readNumber?]
  cases negative with
  | true =>
      simp only [Numeral.signCharacters, List.singleton_append, readWhole,
        readFraction, readExponent, bind, Option.bind, pure]
  | false =>
      -- The first digit is not taken for a sign.
      have unsigned : ∀ further, whole ++ (Numeral.fractionCharacters fraction
          ++ (exponentText ++ rest)) ≠ '-' :: further := by
        obtain ⟨first, further, rfl⟩ := List.exists_cons_of_ne_nil digits.ne_nil
        intro _ same
        rw [List.cons_append, List.cons.injEq] at same
        have digit := digits.isDigit first List.mem_cons_self
        rw [same.1] at digit
        exact absurd digit (by decide)
      simp only [Numeral.signCharacters, List.nil_append, readWhole,
        readFraction, readExponent, bind, Option.bind, pure]

end Numbers

/-! ## Texts -/

/-- The spellings of a piece of a text. -/
inductive SpelledPiece : Piece → List Char → Prop where
  | plain
      {character : Char}
      (no_quote : character ≠ '"')
      (no_backslash : character ≠ '\\')
      (no_control : 0x20 ≤ character.toNat) :
      SpelledPiece (.character character) [character]
  | short
      {mark character : Char}
      (known : shortEscape? mark = some character) :
      SpelledPiece (.character character) ['\\', mark]
  | numbered
      {a b c d : Char}
      {code : Nat}
      (number : Text.hexNumber? [a, b, c, d] = some code) :
      SpelledPiece (.codeUnit code) ['\\', 'u', a, b, c, d]

inductive SpelledPieces : List Piece → List Char → Prop where
  | nil : SpelledPieces [] []
  | cons
      {piece : Piece}
      {first : List Char}
      (head : SpelledPiece piece first)
      {pieces : List Piece}
      {rest : List Char}
      (tail : SpelledPieces pieces rest) :
      SpelledPieces (piece :: pieces) (first ++ rest)

/-- The spellings of a text, between its quotation marks. -/
def SpelledText (content : Option String) (text : List Char) : Prop :=
  ∃ pieces, SpelledPieces pieces text ∧
    content = (joinPieces? pieces).map String.ofList

theorem SpelledPiece.read
    {piece : Piece}
    {text : List Char}
    (spelled : SpelledPiece piece text)
    {pieces : List Piece}
    {rest after : List Char}
    (read : readPieces? rest = some (pieces, after)) :
    readPieces? (text ++ rest) = some (piece :: pieces, after) := by
  cases spelled with
  | @plain character no_quote no_backslash no_control =>
      have visible : ¬ (character = '\\' ∨ character.toNat < 0x20) := by
        rintro (backslash | control)
        · exact no_backslash backslash
        · omega
      rw [List.singleton_append, readPieces?.eq_5, if_neg visible, read]
      · rfl
      · exact no_quote
      · intro _ _ _ _ _ backslash
        exact absurd backslash no_backslash
      · intro _ _ backslash
        exact absurd backslash no_backslash
  | @short mark character known =>
      have no_u : mark ≠ 'u' := by
        rintro rfl
        cases known
      rw [List.cons_append, List.singleton_append, readPieces?.eq_4, known,
        read]
      · rfl
      · intro _ _ _ _ _ u
        exact absurd u no_u
  | numbered number =>
      simp only [List.cons_append, List.nil_append]
      rw [readPieces?.eq_3, number, read]
      rfl

theorem SpelledPieces.read
    {pieces : List Piece}
    {text : List Char}
    (spelled : SpelledPieces pieces text)
    (rest : List Char) :
    readPieces? (text ++ '"' :: rest) = some (pieces, rest) := by
  induction spelled with
  | nil => rfl
  | cons head tail hypothesis =>
      rw [List.append_assoc]
      exact head.read hypothesis

/-- The reader reads every spelling of a text. -/
theorem SpelledText.read
    {content : Option String}
    {text : List Char}
    (spelled : SpelledText content text)
    (rest : List Char) :
    readText? (text ++ '"' :: rest) = some (content, rest) := by
  obtain ⟨pieces, spelled, rfl⟩ := spelled
  rw [readText?, spelled.read]
  rfl

/-! ## Values -/

/-- What a part of a document stands for. -/
inductive Part where
  | value (value : Value)
  /-- The elements of an array, and its end. -/
  | elements (elements : List Value)
  /-- The members of an object, and its end. -/
  | members (members : List (Option String × Value))

/-- The spellings of a part of a document. -/
inductive Spelled : Part → List Char → Prop where
  | null : Spelled (.value .null) ['n', 'u', 'l', 'l']
  | true : Spelled (.value (.bool true)) ['t', 'r', 'u', 'e']
  | false : Spelled (.value (.bool false)) ['f', 'a', 'l', 's', 'e']
  | number
      {numeral : Numeral}
      {text : List Char}
      (spelled : SpelledNumber numeral text) :
      Spelled (.value (.number numeral)) text
  | text
      {content : Option String}
      {text : List Char}
      (spelled : SpelledText content text) :
      Spelled (.value (.text content)) ('"' :: text ++ ['"'])
  | emptyArray
      {blanks : List Char}
      (blank : IsBlank blanks) :
      Spelled (.value (.array [])) ('[' :: blanks ++ [']'])
  | array
      {blanks text : List Char}
      (blank : IsBlank blanks)
      {elements : List Value}
      (spelled : Spelled (.elements elements) text) :
      Spelled (.value (.array elements)) ('[' :: blanks ++ text)
  | emptyObject
      {blanks : List Char}
      (blank : IsBlank blanks) :
      Spelled (.value (.object [])) ('\x7b' :: blanks ++ ['\x7d'])
  | object
      {blanks text : List Char}
      (blank : IsBlank blanks)
      {members : List (Option String × Value)}
      (spelled : Spelled (.members members) text) :
      Spelled (.value (.object members)) ('\x7b' :: blanks ++ text)
  | lastElement
      {element : Value}
      {text after : List Char}
      (spelled : Spelled (.value element) text)
      (blankAfter : IsBlank after) :
      Spelled (.elements [element]) (text ++ (after ++ [']']))
  | element
      {element : Value}
      {text after before further : List Char}
      (spelled : Spelled (.value element) text)
      (blankAfter : IsBlank after)
      (blankBefore : IsBlank before)
      {elements : List Value}
      (spelledFurther : Spelled (.elements elements) further) :
      Spelled (.elements (element :: elements))
        (text ++ (after ++ ',' :: (before ++ further)))
  | lastMember
      {key : Option String}
      {keyText afterKey beforeValue text after : List Char}
      (spelledKey : SpelledText key keyText)
      (blankAfterKey : IsBlank afterKey)
      (blankBeforeValue : IsBlank beforeValue)
      {value : Value}
      (spelled : Spelled (.value value) text)
      (blankAfter : IsBlank after) :
      Spelled (.members [(key, value)])
        ('"' :: (keyText ++ '"' :: (afterKey ++ ':' :: (beforeValue
          ++ (text ++ (after ++ ['\x7d']))))))
  | member
      {key : Option String}
      {keyText afterKey beforeValue text after before further : List Char}
      (spelledKey : SpelledText key keyText)
      (blankAfterKey : IsBlank afterKey)
      (blankBeforeValue : IsBlank beforeValue)
      {value : Value}
      (spelled : Spelled (.value value) text)
      (blankAfter : IsBlank after)
      (blankBefore : IsBlank before)
      {members : List (Option String × Value)}
      (spelledFurther : Spelled (.members members) further) :
      Spelled (.members ((key, value) :: members))
        ('"' :: (keyText ++ '"' :: (afterKey ++ ':' :: (beforeValue
          ++ (text ++ (after ++ ',' :: (before ++ further)))))))

/-- Whether the reader reads a part at the beginning of a text, and leaves the
given rest. -/
def Part.ReadAs (fuel : Nat) (text rest : List Char) : Part → Prop
  | .value content => readValue? fuel text = some (content, rest)
  | .elements contents => readElements? fuel text = some (contents, rest)
  | .members contents => readMembers? fuel text = some (contents, rest)

/-- What may follow a part: a number has to be told from more digits. -/
def Part.EndsAt (rest : List Char) : Part → Prop
  | .value _ => EndsNumber rest
  | _ => True

theorem isSpace_of_beginsNumber
    {first : Char}
    (begins : beginsNumber first = true) :
    isSpace first = false := by
  have no_blank : first ≠ ' ' := ne_of_beginsNumber begins rfl
  have no_tab : first ≠ '\t' := ne_of_beginsNumber begins rfl
  have no_feed : first ≠ '\n' := ne_of_beginsNumber begins rfl
  have no_return : first ≠ '\r' := ne_of_beginsNumber begins rfl
  simp [isSpace, no_blank, no_tab, no_feed, no_return]

/-- A number begins with a minus or a digit. -/
theorem SpelledNumber.exists_first
    {numeral : Numeral}
    {text : List Char}
    (spelled : SpelledNumber numeral text) :
    ∃ first further, text = first :: further ∧
      beginsNumber first = Bool.true := by
  obtain ⟨wellFormed, exponentText, exponent, rfl⟩ := spelled
  simp only [List.append_assoc]
  exact Number.exists_first_signCharacters numeral.negative
    wellFormed.whole.toIsDigits _

/-- Whether a text begins with a token that closes nothing. -/
def Opens (text : List Char) : Prop :=
  ∃ first further, text = first :: further ∧ isSpace first = false ∧
    first ≠ ']' ∧ first ≠ '\x7d'

theorem Opens.append
    {text : List Char}
    (opens : Opens text)
    (rest : List Char) :
    Opens (text ++ rest) := by
  obtain ⟨first, further, rfl, begins⟩ := opens
  exact ⟨first, further ++ rest, rfl, begins⟩

theorem Opens.skipSpace_append
    {text : List Char}
    (opens : Opens text)
    {blanks : List Char}
    (blank : IsBlank blanks) :
    skipSpace (blanks ++ text) = text := by
  obtain ⟨first, further, rfl, visible, -⟩ := opens
  exact Json.skipSpace_append blank visible further

/-- Every spelling begins with a token that closes nothing. -/
theorem Spelled.opens
    {part : Part}
    {text : List Char}
    (spelled : Spelled part text) :
    Opens text := by
  induction spelled with
  | number spelled =>
      obtain ⟨first, further, rfl, begins⟩ := spelled.exists_first
      exact ⟨first, further, rfl, isSpace_of_beginsNumber begins,
        ne_of_beginsNumber begins rfl, ne_of_beginsNumber begins rfl⟩
  | lastElement spelled blankAfter hypothesis => exact hypothesis.append _
  | element spelled blankAfter blankBefore spelledFurther hypothesis =>
      exact hypothesis.append _
  | null => exact ⟨_, _, rfl, by decide⟩
  | true => exact ⟨_, _, rfl, by decide⟩
  | false => exact ⟨_, _, rfl, by decide⟩
  | text => exact ⟨_, _, rfl, by decide⟩
  | emptyArray => exact ⟨_, _, rfl, by decide⟩
  | array => exact ⟨_, _, rfl, by decide⟩
  | emptyObject => exact ⟨_, _, rfl, by decide⟩
  | object => exact ⟨_, _, rfl, by decide⟩
  | lastMember => exact ⟨_, _, rfl, by decide⟩
  | member => exact ⟨_, _, rfl, by decide⟩

/-! ## Steps of the reader -/

/-- A value that begins with a minus or a digit is read as a number. -/
theorem readValue?_of_beginsNumber
    (fuel : Nat)
    {first : Char}
    (begins : beginsNumber first = true)
    (further : List Char) :
    readValue? (fuel + 1) (first :: further) =
      (readNumber? (first :: further)).map fun (numeral, rest) =>
        (.number numeral, rest) := by
  have different {other : Char} (known : beginsNumber other = false) :
      first ≠ other :=
    ne_of_beginsNumber begins known
  simp only [readValue?]
  split
  next same => exact absurd (List.cons.inj same).1 (different rfl)
  next same => exact absurd (List.cons.inj same).1 (different rfl)
  next same => exact absurd (List.cons.inj same).1 (different rfl)
  next same => exact absurd (List.cons.inj same).1 (different rfl)
  next same => exact absurd (List.cons.inj same).1 (different rfl)
  next same => exact absurd (List.cons.inj same).1 (different rfl)
  next =>
    cases readNumber? (first :: further) with
    | none => rfl
    | some read => rfl

theorem endsNumber_of_isSpace
    {character : Char}
    (space : isSpace character = true) :
    character.isDigit = false ∧ character ≠ '.' ∧ character ≠ 'e' ∧
      character ≠ 'E' := by
  simp only [isSpace, Bool.or_eq_true, decide_eq_true_eq] at space
  rcases space with ((rfl | rfl) | rfl) | rfl
  · decide
  · decide
  · decide
  · decide

/-- A blank, a comma or a closing bracket ends a number. -/
theorem endsNumber_append
    {blanks : List Char}
    (blank : IsBlank blanks)
    {mark : Char}
    (closes : mark ∈ [',', ']', '\x7d'])
    (rest : List Char) :
    EndsNumber (blanks ++ mark :: rest) := by
  intro first head
  cases blanks with
  | nil =>
      obtain rfl := Option.some.inj head
      simp only [List.mem_cons, List.not_mem_nil, or_false] at closes
      rcases closes with rfl | rfl | rfl
      · decide
      · decide
      · decide
  | cons space further =>
      obtain rfl := Option.some.inj head
      exact endsNumber_of_isSpace (blank space List.mem_cons_self)

section Steps

variable
    {fuel : Nat}
    {text blanks rest : List Char}

theorem readValue?_array
    (blank : IsBlank blanks)
    (opens : Opens text)
    {elements : List Value}
    (read : readElements? fuel text = some (elements, rest)) :
    readValue? (fuel + 1) ('[' :: (blanks ++ text)) =
      some (.array elements, rest) := by
  have skipped := opens.skipSpace_append blank
  obtain ⟨first, further, rfl, -, opening, -⟩ := opens
  have other : ∀ closed, first :: further ≠ ']' :: closed :=
    fun closed same => opening (List.cons.inj same).1
  simp only [readValue?, skipped, read]
  rfl

theorem readValue?_object
    (blank : IsBlank blanks)
    (opens : Opens text)
    {members : List (Option String × Value)}
    (read : readMembers? fuel text = some (members, rest)) :
    readValue? (fuel + 1) ('\x7b' :: (blanks ++ text)) =
      some (.object members, rest) := by
  have skipped := opens.skipSpace_append blank
  obtain ⟨first, further, rfl, -, -, opening⟩ := opens
  have other : ∀ closed, first :: further ≠ '\x7d' :: closed :=
    fun closed same => opening (List.cons.inj same).1
  simp only [readValue?, skipped, read]
  rfl

theorem readElements?_last
    {element : Value}
    (blank : IsBlank blanks)
    (read : readValue? fuel text = some (element, blanks ++ ']' :: rest)) :
    readElements? (fuel + 1) text = some ([element], rest) := by
  have skipped := skipSpace_append blank (by decide : isSpace ']' = false) rest
  simp only [readElements?, read, skipped, bind, Option.bind]
  rfl

theorem readElements?_further
    {element : Value}
    {further : List Char}
    (blank : IsBlank blanks)
    (read : readValue? fuel text = some (element, blanks ++ ',' :: further))
    {elements : List Value}
    (readFurther :
      readElements? fuel (skipSpace further) = some (elements, rest)) :
    readElements? (fuel + 1) text = some (element :: elements, rest) := by
  have skipped :=
    skipSpace_append blank (by decide : isSpace ',' = false) further
  simp only [readElements?, read, skipped, readFurther, bind, Option.bind]
  rfl

section Members

variable
    {key : Option String}
    {keyText afterKey : List Char}
    (spelledKey : SpelledText key keyText)
    (blankAfterKey : IsBlank afterKey)
    {value : Value}

include spelledKey blankAfterKey

theorem readMembers?_last
    (blank : IsBlank blanks)
    (read :
      readValue? fuel (skipSpace text) =
        some (value, blanks ++ '\x7d' :: rest)) :
    readMembers? (fuel + 1)
        ('"' :: (keyText ++ '"' :: (afterKey ++ ':' :: text))) =
      some ([(key, value)], rest) := by
  have colon :=
    skipSpace_append blankAfterKey (by decide : isSpace ':' = false) text
  have skipped :=
    skipSpace_append blank (by decide : isSpace '\x7d' = false) rest
  simp only [readMembers?, spelledKey.read, colon, read, skipped, bind,
    Option.bind]
  rfl

theorem readMembers?_further
    {further : List Char}
    (blank : IsBlank blanks)
    (read :
      readValue? fuel (skipSpace text) =
        some (value, blanks ++ ',' :: further))
    {members : List (Option String × Value)}
    (readFurther :
      readMembers? fuel (skipSpace further) = some (members, rest)) :
    readMembers? (fuel + 1)
        ('"' :: (keyText ++ '"' :: (afterKey ++ ':' :: text))) =
      some ((key, value) :: members, rest) := by
  have colon :=
    skipSpace_append blankAfterKey (by decide : isSpace ':' = false) text
  have skipped :=
    skipSpace_append blank (by decide : isSpace ',' = false) further
  simp only [readMembers?, spelledKey.read, colon, read, skipped, readFurther,
    bind, Option.bind]
  rfl

end Members

end Steps

/-! ## The reader -/

/-- The reader reads every spelling of a part. -/
theorem Spelled.read
    {part : Part}
    {text : List Char}
    (spelled : Spelled part text)
    {fuel : Nat}
    (enough : text.length ≤ fuel)
    {rest : List Char}
    (ends : part.EndsAt rest) :
    part.ReadAs (fuel + 1) (text ++ rest) rest := by
  induction spelled generalizing fuel rest with
  | null => rfl
  | true => rfl
  | false => rfl
  | number spelled =>
      have read := spelled.read ends
      obtain ⟨first, further, rfl, begins⟩ := spelled.exists_first
      rw [List.cons_append] at read ⊢
      rw [Part.ReadAs, readValue?_of_beginsNumber fuel begins, read]
      rfl
  | text spelled =>
      have read := spelled.read rest
      simp only [List.cons_append, List.append_assoc, List.nil_append,
        Part.ReadAs, readValue?, read]
      rfl
  | emptyArray blank =>
      have skipped := skipSpace_append blank
        (by decide : isSpace ']' = Bool.false) rest
      simp only [List.cons_append, List.append_assoc, List.nil_append,
        Part.ReadAs, readValue?, skipped]
  | array blank spelled hypothesis =>
      simp only [List.length_cons, List.length_append, List.cons_append,
        List.append_assoc] at enough ⊢
      obtain ⟨fuel, rfl⟩ : ∃ less, fuel = less + 1 := ⟨fuel - 1, by omega⟩
      exact readValue?_array blank (spelled.opens.append rest)
        (hypothesis (by omega) trivial)
  | emptyObject blank =>
      have skipped := skipSpace_append blank
        (by decide : isSpace '\x7d' = Bool.false) rest
      simp only [List.cons_append, List.append_assoc, List.nil_append,
        Part.ReadAs, readValue?, skipped]
  | object blank spelled hypothesis =>
      simp only [List.length_cons, List.length_append, List.cons_append,
        List.append_assoc] at enough ⊢
      obtain ⟨fuel, rfl⟩ : ∃ less, fuel = less + 1 := ⟨fuel - 1, by omega⟩
      exact readValue?_object blank (spelled.opens.append rest)
        (hypothesis (by omega) trivial)
  | lastElement spelled blankAfter hypothesis =>
      simp only [List.length_cons, List.length_append, List.length_nil,
        List.append_assoc, List.cons_append, List.nil_append] at enough ⊢
      obtain ⟨fuel, rfl⟩ : ∃ less, fuel = less + 1 := ⟨fuel - 1, by omega⟩
      exact readElements?_last blankAfter
        (hypothesis (by omega) (endsNumber_append blankAfter (by decide) rest))
  | element spelled blankAfter blankBefore spelledFurther hypothesis
      hypothesisFurther =>
      simp only [List.length_cons, List.length_append, List.append_assoc,
        List.cons_append] at enough ⊢
      obtain ⟨fuel, rfl⟩ : ∃ less, fuel = less + 1 := ⟨fuel - 1, by omega⟩
      refine readElements?_further blankAfter
        (hypothesis (by omega) (endsNumber_append blankAfter (by decide) _)) ?_
      rw [(spelledFurther.opens.append rest).skipSpace_append blankBefore]
      exact hypothesisFurther (by omega) trivial
  | lastMember spelledKey blankAfterKey blankBeforeValue spelled blankAfter
      hypothesis =>
      simp only [List.length_cons, List.length_append, List.length_nil,
        List.append_assoc, List.cons_append, List.nil_append] at enough ⊢
      obtain ⟨fuel, rfl⟩ : ∃ less, fuel = less + 1 := ⟨fuel - 1, by omega⟩
      refine readMembers?_last spelledKey blankAfterKey blankAfter ?_
      rw [(spelled.opens.append _).skipSpace_append blankBeforeValue]
      exact hypothesis (by omega)
        (endsNumber_append blankAfter (by decide) rest)
  | @member key keyText afterKey beforeValue text after before further
      spelledKey blankAfterKey blankBeforeValue value spelled blankAfter
      blankBefore members spelledFurther hypothesis hypothesisFurther =>
      simp only [List.length_cons, List.length_append, List.append_assoc,
        List.cons_append] at enough ⊢
      obtain ⟨fuel, rfl⟩ : ∃ less, fuel = less + 1 := ⟨fuel - 1, by omega⟩
      have ends :=
        endsNumber_append blankAfter (by decide : ',' ∈ [',', ']', '\x7d'])
          (before ++ (further ++ rest))
      apply readMembers?_further spelledKey blankAfterKey blankAfter
      · rw [(spelled.opens.append _).skipSpace_append blankBeforeValue]
        exact hypothesis (by omega) ends
      · rw [(spelledFurther.opens.append rest).skipSpace_append blankBefore]
        exact hypothesisFurther (by omega) trivial

/-- A document is read as the value that is spelled in it, with any blanks
around. -/
theorem Spelled.readCharacters?
    {value : Value}
    {text : List Char}
    (spelled : Spelled (.value value) text)
    {before after : List Char}
    (blankBefore : IsBlank before)
    (blankAfter : IsBlank after) :
    Json.readCharacters? (before ++ (text ++ after)) = some value := by
  have ends : EndsNumber after := by
    intro first head
    exact endsNumber_of_isSpace (blankAfter first (List.mem_of_mem_head? head))
  have enough : text.length ≤ (before ++ (text ++ after)).length := by
    simp only [List.length_append]
    omega
  have read : readValue? _ _ = some _ := spelled.read enough ends
  rw [Json.readCharacters?,
    (spelled.opens.append after).skipSpace_append blankBefore, read]
  simp only [bind, Option.bind, skipSpace_blank blankAfter]
  rfl

end Toolpath.Json
