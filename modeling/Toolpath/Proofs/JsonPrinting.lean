import Toolpath.Json.Printer
import Toolpath.Proofs.JsonGrammar

/-!
# What is written as JSON is JSON

Both ways in which a value is written follow the grammar: the compact text and
the indented one spell the value, if the numerals in it are well formed.  The
reader therefore reads the value again.
-/

namespace Toolpath.Json

open Number (Numeral)

/-! ## Texts -/

theorem hexValue?_hexDigit
    {value : Nat}
    (small : value < 16) :
    Text.hexValue? (hexDigit value) = some value := by
  revert value
  decide

/-- The digits of a numbered escape give its number. -/
theorem spelledPiece_numberedEscape
    {code : Nat}
    (short : code < 0x10000) :
    SpelledPiece (.codeUnit code) (numberedEscape code) := by
  apply SpelledPiece.numbered
  simp only [Text.hexNumber?, List.foldlM_cons, List.foldlM_nil,
    hexValue?_hexDigit (Nat.mod_lt _ (by decide : 16 > 0)), Option.map_some,
    bind, Option.bind, pure, Option.some.injEq]
  omega

/-- A character is written as one piece, which stands for it. -/
def WrittenAs (character : Char) (text : List Char) : Prop :=
  ∃ piece, SpelledPiece piece text ∧
    ∀ pieces, joinPieces? (piece :: pieces) =
      (joinPieces? pieces).map (character :: ·)

theorem WrittenAs.short
    {mark character known : Char}
    (same : character = known)
    (escape : shortEscape? mark = some known) :
    WrittenAs character ['\\', mark] :=
  ⟨.character character, .short (by rw [same, escape]), fun _ => rfl⟩

theorem WrittenAs.numbered
    {character : Char}
    (control : character.toNat < 0x20) :
    WrittenAs character (numberedEscape character.toNat) := by
  refine ⟨.codeUnit character.toNat,
    spelledPiece_numberedEscape (by omega), fun pieces => ?_⟩
  have no_high : isHighSurrogate character.toNat = false := by
    rw [isHighSurrogate, Bool.and_eq_false_iff, decide_eq_false_iff_not]
    omega
  have no_low : isLowSurrogate character.toNat = false := by
    rw [isLowSurrogate, Bool.and_eq_false_iff, decide_eq_false_iff_not]
    omega
  rw [joinPieces?.eq_def]
  simp [no_high, no_low]

theorem writtenAs_escapeCharacter (character : Char) :
    WrittenAs character (escapeCharacter character) := by
  unfold escapeCharacter
  split
  next quote => exact .short quote rfl
  split
  next backslash => exact .short backslash rfl
  split
  next same => exact .short same rfl
  split
  next same => exact .short same rfl
  split
  next same => exact .short same rfl
  split
  next same => exact .short same rfl
  split
  next same => exact .short same rfl
  split
  next control => exact .numbered control
  next no_quote no_backslash _ _ _ _ _ no_control =>
    exact ⟨.character character,
      .plain no_quote no_backslash (Nat.not_lt.mp no_control), fun _ => rfl⟩

theorem exists_spelledPieces (content : List Char) :
    ∃ pieces, SpelledPieces pieces (content.flatMap escapeCharacter) ∧
      joinPieces? pieces = some content := by
  induction content with
  | nil => exact ⟨[], .nil, rfl⟩
  | cons character content hypothesis =>
      obtain ⟨piece, spelled, joined⟩ := writtenAs_escapeCharacter character
      obtain ⟨pieces, further, rest⟩ := hypothesis
      exact ⟨piece :: pieces, .cons spelled further, by rw [joined, rest]; rfl⟩

/-- A text is written as a spelling of it between quotation marks. -/
theorem exists_spelledText_quoted (content : Option String) :
    ∃ text, SpelledText content text ∧
      quoted content = '"' :: (text ++ ['"']) := by
  cases content with
  | some content =>
      obtain ⟨pieces, spelled, joined⟩ := exists_spelledPieces content.toList
      refine ⟨_, ⟨pieces, spelled, ?_⟩, rfl⟩
      rw [joined, Option.map_some, String.ofList_toList]
  | none =>
      have half := spelledPiece_numberedEscape (by decide : 0xd800 < 0x10000)
      have spelled := SpelledPieces.cons half .nil
      rw [List.append_nil] at spelled
      exact ⟨_, ⟨_, spelled, rfl⟩, rfl⟩

/-! ## Values -/

mutual

/-- The numerals in a value. -/
def Value.numerals : Value → List Numeral
  | .number numeral => [numeral]
  | .array elements => elementNumerals elements
  | .object members => memberNumerals members
  | _ => []

/-- The numerals in the elements of an array. -/
def elementNumerals : List Value → List Numeral
  | [] => []
  | element :: elements => element.numerals ++ elementNumerals elements

/-- The numerals in the members of an object. -/
def memberNumerals : List (Option String × Value) → List Numeral
  | [] => []
  | (_, value) :: members => value.numerals ++ memberNumerals members

end

/-- Whether all numerals in a value are well formed. -/
def Value.WellFormed (value : Value) : Prop :=
  ∀ numeral ∈ value.numerals, numeral.WellFormed

theorem spelledExponent_exponentCharacters (exponent : Option Int) :
    SpelledExponent exponent (Numeral.exponentCharacters exponent) := by
  cases exponent with
  | none => exact .missing
  | some exponent =>
      have row := Number.isDigits_digitsOf exponent.natAbs
      by_cases negative : exponent < 0
      · have spelled := SpelledExponent.written (.inl rfl : 'e' = 'e' ∨ _)
          (.inr (.inr rfl) : ['-'] = [] ∨ _) row
        have value : (-exponent.natAbs : Int) = exponent := by omega
        rw [if_pos rfl, Number.valueOfDigits_digitsOf, value] at spelled
        rw [Numeral.exponentCharacters, if_pos negative]
        exact spelled
      · have spelled := SpelledExponent.written (.inl rfl : 'e' = 'e' ∨ _)
          (.inr (.inl rfl) : ['+'] = [] ∨ _) row
        have value : (exponent.natAbs : Int) = exponent := by omega
        rw [if_neg (by decide), Number.valueOfDigits_digitsOf, value] at spelled
        rw [Numeral.exponentCharacters, if_neg negative]
        exact spelled

/-- A well-formed numeral is written as a spelling of it. -/
theorem spelledNumber_characters
    {numeral : Numeral}
    (wellFormed : numeral.WellFormed) :
    SpelledNumber numeral numeral.characters :=
  ⟨wellFormed, _, spelledExponent_exponentCharacters numeral.exponent, rfl⟩

/-! ### The compact text -/

mutual

/-- The compact text of a value spells it. -/
theorem spelled_compact
    (value : Value)
    (wellFormed : ∀ numeral ∈ value.numerals, numeral.WellFormed) :
    Spelled (.value value) (compact value) := by
  match value with
  | .null => exact .null
  | .bool true => exact .true
  | .bool false => exact .false
  | .number numeral =>
      exact .number
        (spelledNumber_characters (wellFormed numeral List.mem_cons_self))
  | .text content =>
      obtain ⟨text, spelled, written⟩ := exists_spelledText_quoted content
      rw [compact, written]
      exact .text spelled
  | .array [] => exact .emptyArray isBlank_nil
  | .array (first :: rest) =>
      obtain ⟨wellFormedFirst, wellFormedRest⟩ :=
        List.forall_mem_append.mp wellFormed
      have elements := spelled_compactElements rest wellFormedRest
        (spelled_compact first wellFormedFirst)
      simpa [compact] using Spelled.array isBlank_nil elements
  | .object [] => exact .emptyObject isBlank_nil
  | .object ((key, first) :: rest) =>
      obtain ⟨wellFormedFirst, wellFormedRest⟩ :=
        List.forall_mem_append.mp wellFormed
      have members := spelled_compactMembers rest wellFormedRest key
        (spelled_compact first wellFormedFirst)
      simpa [compact] using Spelled.object isBlank_nil members

theorem spelled_compactElements
    (rest : List Value)
    (wellFormed : ∀ numeral ∈ elementNumerals rest, numeral.WellFormed)
    {first : Value}
    {text : List Char}
    (spelled : Spelled (.value first) text) :
    Spelled (.elements (first :: rest))
      (text ++ (compactElements rest ++ [']'])) := by
  match rest with
  | [] => exact .lastElement spelled isBlank_nil
  | second :: rest =>
      obtain ⟨wellFormedSecond, wellFormedRest⟩ :=
        List.forall_mem_append.mp wellFormed
      have elements := spelled_compactElements rest wellFormedRest
        (spelled_compact second wellFormedSecond)
      simpa [compactElements] using
        Spelled.element spelled isBlank_nil isBlank_nil elements

theorem spelled_compactMembers
    (rest : List (Option String × Value))
    (wellFormed : ∀ numeral ∈ memberNumerals rest, numeral.WellFormed)
    (key : Option String)
    {first : Value}
    {text : List Char}
    (spelled : Spelled (.value first) text) :
    Spelled (.members ((key, first) :: rest))
      (quoted key ++ ':' :: (text ++ (compactMembers rest ++ ['\x7d']))) := by
  obtain ⟨keyText, spelledKey, written⟩ := exists_spelledText_quoted key
  rw [written]
  match rest with
  | [] =>
      simpa [compactMembers] using
        Spelled.lastMember spelledKey isBlank_nil isBlank_nil spelled
          isBlank_nil
  | (key, second) :: rest =>
      obtain ⟨wellFormedSecond, wellFormedRest⟩ :=
        List.forall_mem_append.mp wellFormed
      have members := spelled_compactMembers rest wellFormedRest key
        (spelled_compact second wellFormedSecond)
      simpa [compactMembers] using
        Spelled.member spelledKey isBlank_nil isBlank_nil spelled isBlank_nil
          isBlank_nil members

end

/-- The compact text of a value is read as that value. -/
theorem read?_compactText
    {value : Value}
    (wellFormed : value.WellFormed) :
    read? value.compactText = some value := by
  have spelled := spelled_compact value wellFormed
  rw [read?, Value.compactText, String.toList_ofList]
  simpa using spelled.readCharacters? isBlank_nil isBlank_nil

/-! ### The indented text -/

theorem isBlank_newLine (level : Nat) : IsBlank (newLine level) := by
  intro character member
  rcases List.mem_cons.mp member with rfl | space
  · rfl
  · rw [List.eq_of_mem_replicate space]
    rfl

theorem isBlank_space : IsBlank [' '] := by
  intro character member
  rw [List.mem_singleton.mp member]
  rfl

mutual

/-- The indented text of a value spells it. -/
theorem spelled_indented
    (level : Nat)
    (value : Value)
    (wellFormed : ∀ numeral ∈ value.numerals, numeral.WellFormed) :
    Spelled (.value value) (indented level value) := by
  match value with
  | .null => exact .null
  | .bool true => exact .true
  | .bool false => exact .false
  | .number numeral =>
      exact .number
        (spelledNumber_characters (wellFormed numeral List.mem_cons_self))
  | .text content =>
      obtain ⟨text, spelled, written⟩ := exists_spelledText_quoted content
      rw [indented, written]
      exact .text spelled
  | .array [] => exact .emptyArray isBlank_nil
  | .array (first :: rest) =>
      obtain ⟨wellFormedFirst, wellFormedRest⟩ :=
        List.forall_mem_append.mp wellFormed
      have elements :=
        spelled_indentedElements (level + 1) rest wellFormedRest
          (spelled_indented (level + 1) first wellFormedFirst)
          (isBlank_newLine level)
      simpa [indented] using
        Spelled.array (isBlank_newLine (level + 1)) elements
  | .object [] => exact .emptyObject isBlank_nil
  | .object ((key, first) :: rest) =>
      obtain ⟨wellFormedFirst, wellFormedRest⟩ :=
        List.forall_mem_append.mp wellFormed
      have members :=
        spelled_indentedMembers (level + 1) rest wellFormedRest key
          (spelled_indented (level + 1) first wellFormedFirst)
          (isBlank_newLine level)
      simpa [indented] using
        Spelled.object (isBlank_newLine (level + 1)) members

theorem spelled_indentedElements
    (level : Nat)
    (rest : List Value)
    (wellFormed : ∀ numeral ∈ elementNumerals rest, numeral.WellFormed)
    {first : Value}
    {text blanks : List Char}
    (spelled : Spelled (.value first) text)
    (blank : IsBlank blanks) :
    Spelled (.elements (first :: rest))
      (text ++ (indentedElements level rest ++ (blanks ++ [']']))) := by
  match rest with
  | [] => exact .lastElement spelled blank
  | second :: rest =>
      obtain ⟨wellFormedSecond, wellFormedRest⟩ :=
        List.forall_mem_append.mp wellFormed
      have elements := spelled_indentedElements level rest wellFormedRest
        (spelled_indented level second wellFormedSecond) blank
      simpa [indentedElements] using
        Spelled.element spelled isBlank_nil (isBlank_newLine level) elements

theorem spelled_indentedMembers
    (level : Nat)
    (rest : List (Option String × Value))
    (wellFormed : ∀ numeral ∈ memberNumerals rest, numeral.WellFormed)
    (key : Option String)
    {first : Value}
    {text blanks : List Char}
    (spelled : Spelled (.value first) text)
    (blank : IsBlank blanks) :
    Spelled (.members ((key, first) :: rest))
      (quoted key ++ ':' :: ' ' :: (text
        ++ (indentedMembers level rest ++ (blanks ++ ['\x7d'])))) := by
  obtain ⟨keyText, spelledKey, written⟩ := exists_spelledText_quoted key
  rw [written]
  match rest with
  | [] =>
      simpa [indentedMembers] using
        Spelled.lastMember spelledKey isBlank_nil isBlank_space spelled blank
  | (key, second) :: rest =>
      obtain ⟨wellFormedSecond, wellFormedRest⟩ :=
        List.forall_mem_append.mp wellFormed
      have members := spelled_indentedMembers level rest wellFormedRest key
        (spelled_indented level second wellFormedSecond) blank
      simpa [indentedMembers] using
        Spelled.member spelledKey isBlank_nil isBlank_space spelled isBlank_nil
          (isBlank_newLine level) members

end

/-- The indented text of a value is read as that value. -/
theorem read?_indentedText
    {value : Value}
    (wellFormed : value.WellFormed) :
    read? value.indentedText = some value := by
  have spelled := spelled_indented 0 value wellFormed
  rw [read?, Value.indentedText, String.toList_ofList]
  simpa using spelled.readCharacters? isBlank_nil isBlank_nil

/-! ## Well-formed values -/

namespace Value

theorem wellFormed_string (content : String) : (string content).WellFormed := by
  simp [WellFormed, string, numerals]

theorem wellFormed_bool (value : Bool) : (bool value).WellFormed := by
  simp [WellFormed, numerals]

theorem wellFormed_null : null.WellFormed := by
  simp [WellFormed, numerals]

theorem wellFormed_natural (value : Nat) : (natural value).WellFormed := by
  simp [WellFormed, natural, numerals, Numeral.wellFormed_ofNat]

theorem wellFormed_float (value : Float) : (float value).WellFormed := by
  rw [float]
  split
  next numeral spelled =>
    simpa [WellFormed, numerals] using Number.wellFormed_numeral? spelled
  next => simp [WellFormed, numerals]

/-- An array is well formed if its elements are. -/
theorem wellFormed_array
    {elements : List Value}
    (parts : ∀ element ∈ elements, element.WellFormed) :
    (array elements).WellFormed := by
  rw [WellFormed, numerals]
  induction elements with
  | nil => simp [elementNumerals]
  | cons element elements hypothesis =>
      rw [List.forall_mem_cons] at parts
      rw [elementNumerals, List.forall_mem_append]
      exact ⟨parts.1, hypothesis parts.2⟩

/-- A record is well formed if its fields are. -/
theorem wellFormed_record
    {members : List (String × Value)}
    (fields : ∀ member ∈ members, member.2.WellFormed) :
    (record members).WellFormed := by
  rw [WellFormed, record, numerals]
  induction members with
  | nil => simp [memberNumerals]
  | cons member members hypothesis =>
      rw [List.forall_mem_cons] at fields
      rw [List.map_cons, memberNumerals, List.forall_mem_append]
      exact ⟨fields.1, hypothesis fields.2⟩

end Value

end Toolpath.Json
