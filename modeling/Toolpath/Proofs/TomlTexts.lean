import Toolpath.Toml.Printer
import Toolpath.Toml.Text

/-!
# Quoted texts in TOML

Not every style of quoted text can carry every text: between apostrophes there
are no escapes, and three marks in a row end a text of several lines.  This
module says what each style can carry, and proves that a text is read back from
every style that can carry it, whatever stands after it but a further mark.

The style that is chosen for a text can carry it.
-/

namespace Toolpath.Toml

/-! ## Single characters -/

/-- How a character may be written where there are escapes. -/
inductive WrittenCharacter (character : Char) : List Char → Prop where
  | plain
      (shown : isPlain character = true)
      (no_quote : character ≠ '"')
      (no_backslash : character ≠ '\\') :
      WrittenCharacter character [character]
  | escape
      {escape : List Char}
      (reads : ∀ rest, readEscape? (escape ++ rest) = some (character, rest)) :
      WrittenCharacter character ('\\' :: escape)

theorem hexValue?_upperHexDigit
    {value : Nat}
    (small : value < 16) :
    Text.hexValue? (upperHexDigit value) = some value := by
  revert value
  decide

theorem numberedCharacter?_upperHexDigit
    {character : Char}
    (short : character.toNat < 0x100) :
    numberedCharacter?
        ['0', '0', upperHexDigit (character.toNat / 16),
          upperHexDigit (character.toNat % 16)] =
      some character := by
  have number : Text.hexNumber?
      ['0', '0', upperHexDigit (character.toNat / 16),
        upperHexDigit (character.toNat % 16)] = some character.toNat := by
    have zero : Text.hexValue? '0' = some 0 := rfl
    simp only [Text.hexNumber?, List.foldlM_cons, List.foldlM_nil, zero,
      hexValue?_upperHexDigit (by omega : character.toNat / 16 < 16),
      hexValue?_upperHexDigit (by omega : character.toNat % 16 < 16),
      Option.map_some, bind, Option.bind, pure, Option.some.injEq]
    omega
  have valid : Nat.isValidChar character.toNat := character.valid
  rw [numberedCharacter?, number]
  simp only [bind, Option.bind, pure, if_pos valid, Char.ofNat_toNat]

theorem WrittenCharacter.short
    {mark character known : Char}
    (same : character = known)
    (escape : shortEscape? mark = some known) :
    WrittenCharacter character ['\\', mark] := by
  refine .escape fun rest => ?_
  have no_u : mark ≠ 'u' := by
    rintro rfl
    cases escape
  have no_U : mark ≠ 'U' := by
    rintro rfl
    cases escape
  rw [List.singleton_append, readEscape?.eq_3, escape, same]
  · rfl
  · intro _ _ _ _ _ u
    exact absurd u no_u
  · intro _ _ _ _ _ _ _ _ _ u
    exact absurd u no_U

/-- What is written for a character does not begin with a mark. -/
theorem WrittenCharacter.exists_first
    {character : Char}
    {text : List Char}
    (written : WrittenCharacter character text) :
    ∃ first further, text = first :: further ∧ first ≠ '"' := by
  cases written with
  | plain shown no_quote => exact ⟨_, _, rfl, no_quote⟩
  | escape => exact ⟨_, _, rfl, by decide⟩

theorem writtenCharacter_escapeCharacter (character : Char) :
    WrittenCharacter character (escapeCharacter character) := by
  unfold escapeCharacter
  split
  next same => exact .short same rfl
  split
  next same => exact .short same rfl
  split
  next same => exact .short same rfl
  split
  next same => exact .short same rfl
  split
  next same => exact .short same rfl
  split
  next same => exact .short same rfl
  split
  next same => exact .short same rfl
  split
  next control =>
    apply WrittenCharacter.escape
    intro rest
    have number :=
      numberedCharacter?_upperHexDigit (by omega : character.toNat < 0x100)
    simp only [List.cons_append, List.nil_append, readEscape?, number]
    rfl
  next no_quote no_backslash _ _ _ _ _ no_control =>
    refine .plain ?_ no_quote no_backslash
    simp only [isPlain, Bool.or_eq_true, decide_eq_true_eq, Bool.and_eq_true]
    omega

/-! ## Texts on one line -/

theorem escapedCharacters_false (marks : Nat) (content : List Char) :
    escapedCharacters false marks content =
      content.flatMap escapeCharacter := by
  induction content generalizing marks with
  | nil => rfl
  | cons character content hypothesis =>
      simp [escapedCharacters, hypothesis]

theorem WrittenCharacter.readBasic?
    {character : Char}
    {text : List Char}
    (written : WrittenCharacter character text)
    {fuel : Nat}
    {rest content after : List Char}
    (read : Toml.readBasic? fuel rest = some (content, after)) :
    Toml.readBasic? (fuel + 1) (text ++ rest) =
      some (character :: content, after) := by
  cases written with
  | plain shown no_quote no_backslash =>
      rw [List.singleton_append, Toml.readBasic?.eq_4, if_pos shown, read]
      · rfl
      · exact no_quote
      · exact no_backslash
  | escape reads =>
      rw [List.cons_append, Toml.readBasic?.eq_3, reads]
      simp only [bind, Option.bind, read]
      rfl

theorem readBasic?_append
    (content rest : List Char)
    {fuel : Nat}
    (enough : content.length < fuel) :
    readBasic? fuel (content.flatMap escapeCharacter ++ '"' :: rest) =
      some (content, rest) := by
  induction content generalizing fuel with
  | nil =>
      obtain ⟨fuel, rfl⟩ := Nat.exists_eq_add_one.mpr enough
      rfl
  | cons character content hypothesis =>
      obtain ⟨fuel, rfl⟩ := Nat.exists_eq_add_one.mpr
        (Nat.lt_of_le_of_lt (Nat.zero_le _) enough)
      rw [List.flatMap_cons, List.append_assoc]
      exact (writtenCharacter_escapeCharacter character).readBasic?
        (hypothesis (by simpa using enough))

theorem length_le_flatMap_escapeCharacter (content : List Char) :
    content.length ≤ (content.flatMap escapeCharacter).length := by
  induction content with
  | nil => exact Nat.le_refl 0
  | cons character content hypothesis =>
      obtain ⟨first, further, same, -⟩ :=
        (writtenCharacter_escapeCharacter character).exists_first
      rw [List.flatMap_cons, same, List.cons_append, List.length_cons,
        List.length_cons, List.length_append]
      omega

theorem head?_flatMap_escapeCharacter (content : List Char) :
    (content.flatMap escapeCharacter).head? ≠ some '"' := by
  cases content with
  | nil => simp
  | cons character content =>
      obtain ⟨first, further, same, no_quote⟩ :=
        (writtenCharacter_escapeCharacter character).exists_first
      simpa [same] using no_quote

theorem readLiteral?_append
    {content : List Char}
    (shown : ∀ character ∈ content,
      isPlain character = true ∧ character ≠ '\'')
    (rest : List Char) :
    readLiteral? (content ++ '\'' :: rest) = some (content, rest) := by
  have inside : ∀ character ∈ content,
      (isPlain character && character ≠ '\'') = true := by
    simpa using shown
  rw [readLiteral?]
  simp only [List.dropWhile_append_of_pos inside,
    List.takeWhile_append_of_pos inside]
  simp

/-! ## Texts of several lines -/

/--
How a text may be written between threefold marks, after some of the marks have
been written as they are.  Where the mark is the quotation mark there are
escapes.
-/
inductive WrittenLines (mark : Char) : Nat → List Char → List Char → Prop where
  | nil
      {marks : Nat} :
      WrittenLines mark marks [] []
  | mark
      {marks : Nat}
      (few : marks < 2)
      {content text : List Char}
      (rest : WrittenLines mark (marks + 1) content text) :
      WrittenLines mark marks (mark :: content) (mark :: text)
  | lineBreak
      {marks : Nat}
      {content text : List Char}
      (rest : WrittenLines mark 0 content text) :
      WrittenLines mark marks ('\n' :: content) ('\n' :: text)
  | plain
      {marks : Nat}
      {character : Char}
      (shown : isPlain character = true)
      (no_mark : character ≠ mark)
      (no_escape : ¬ (character = '\\' ∧ mark = '"'))
      {content text : List Char}
      (rest : WrittenLines mark 0 content text) :
      WrittenLines mark marks (character :: content) (character :: text)
  | escape
      {marks : Nat}
      (quote : mark = '"')
      {character : Char}
      {escape : List Char}
      (reads : ∀ rest, readEscape? (escape ++ rest) = some (character, rest))
      {content text : List Char}
      (rest : WrittenLines mark 0 content text) :
      WrittenLines mark marks (character :: content)
        ('\\' :: (escape ++ text))

/-- The marks between which a text may stand. -/
def IsMark (mark : Char) : Prop := mark = '"' ∨ mark = '\''

section Lines

variable {mark : Char} {fuel : Nat} {rest content after : List Char}

theorem IsMark.isPlain (known : IsMark mark) : isPlain mark = true := by
  rcases known with rfl | rfl
  · rfl
  · rfl

theorem ne_break_of_isPlain
    {character : Char}
    (shown : isPlain character = true) :
    character ≠ '\n' ∧ character ≠ '\r' := by
  constructor
  · rintro rfl
    cases shown
  · rintro rfl
    cases shown

theorem readMultiline?_closing
    (known : IsMark mark)
    (rest : List Char) :
    readMultiline? mark (fuel + 1) (mark :: mark :: mark :: rest) =
      some (splitClosing mark rest) := by
  have no_break := ne_break_of_isPlain known.isPlain
  rw [readMultiline?.eq_5]
  · exact if_pos rfl
  · intro _ carriage
    exact absurd carriage no_break.2
  · exact no_break.1

theorem readMultiline?_break
    (read : readMultiline? mark fuel rest = some (content, after)) :
    readMultiline? mark (fuel + 1) ('\n' :: rest) =
      some ('\n' :: content, after) := by
  rw [readMultiline?, read]
  rfl

theorem readMultiline?_plain
    {character : Char}
    (shown : isPlain character = true)
    (no_closing : (character :: rest).take 3 ≠ [mark, mark, mark])
    (no_escape : ¬ (character = '\\' ∧ mark = '"'))
    (read : readMultiline? mark fuel rest = some (content, after)) :
    readMultiline? mark (fuel + 1) (character :: rest) =
      some (character :: content, after) := by
  have no_break := ne_break_of_isPlain shown
  rw [readMultiline?.eq_5, if_neg no_closing, if_neg no_escape, if_pos shown,
    read]
  · rfl
  · intro _ carriage
    exact absurd carriage no_break.2
  · exact no_break.1

theorem readMultiline?_escape
    {character : Char}
    {escape : List Char}
    (reads : readEscape? (escape ++ rest) = some (character, rest))
    (read : readMultiline? '"' fuel rest = some (content, after)) :
    readMultiline? '"' (fuel + 1) ('\\' :: (escape ++ rest)) =
      some (character :: content, after) := by
  rw [readMultiline?.eq_5, if_neg (by simp), if_pos ⟨rfl, rfl⟩, reads]
  · simp only [read]
    rfl
  · intro _ carriage
    cases carriage
  · intro lineBreak
    cases lineBreak

/-- At most two marks right after the closing ones still belong to the text. -/
theorem splitClosing_append
    {marks : List Char}
    (few : marks = [] ∨ marks = [mark] ∨ marks = [mark, mark])
    (ends : rest.head? ≠ some mark) :
    splitClosing mark (marks ++ rest) = (marks, rest) := by
  cases rest with
  | nil =>
      rcases few with rfl | rfl | rfl
      · rfl
      · simp [splitClosing]
      · simp [splitClosing]
  | cons first rest =>
      have other : first ≠ mark := by simpa using ends
      rcases few with rfl | rfl | rfl
      · cases rest with
        | nil => simp [splitClosing, other]
        | cons second rest => simp [splitClosing, other]
      · simp [splitClosing, other]
      · simp [splitClosing]

/-- Marks that look like the closing ones stand at the end of the text. -/
theorem WrittenLines.of_closing
    {marks : Nat}
    {text : List Char}
    (written : WrittenLines mark (marks + 1) content text)
    (known : IsMark mark)
    (closing :
      (mark :: (text ++ mark :: mark :: mark :: rest)).take 3 =
        [mark, mark, mark]) :
    content = text ∧ (text = [] ∨ text = [mark]) := by
  have no_break := (ne_break_of_isPlain known.isPlain).1
  have no_backslash : mark ≠ '\\' := by
    rcases known with rfl | rfl
    · decide
    · decide
  cases written with
  | nil => exact ⟨rfl, .inl rfl⟩
  | mark few inner =>
      cases inner with
      | nil => exact ⟨rfl, .inr rfl⟩
      | mark few => omega
      | lineBreak => simp [Ne.symm no_break] at closing
      | plain shown no_mark => simp [no_mark] at closing
      | escape => simp [Ne.symm no_backslash] at closing
  | lineBreak => simp [Ne.symm no_break] at closing
  | plain shown no_mark => simp [no_mark] at closing
  | escape => simp [Ne.symm no_backslash] at closing

/-- A text of several lines is read back, if no further mark stands after the
closing ones. -/
theorem WrittenLines.read
    {marks : Nat}
    {text : List Char}
    (written : WrittenLines mark marks content text)
    (known : IsMark mark)
    (ends : rest.head? ≠ some mark)
    (enough : text.length < fuel) :
    readMultiline? mark fuel (text ++ mark :: mark :: mark :: rest) =
      some (content, rest) := by
  induction written generalizing fuel with
  | nil =>
      obtain ⟨fuel, rfl⟩ := Nat.exists_eq_add_one.mpr enough
      rw [List.nil_append, readMultiline?_closing known]
      exact congrArg some (splitClosing_append (.inl rfl) ends)
  | @mark marks few content text inner hypothesis =>
      obtain ⟨fuel, rfl⟩ := Nat.exists_eq_add_one.mpr
        (Nat.lt_of_le_of_lt (Nat.zero_le _) enough)
      by_cases closing :
          (mark :: (text ++ mark :: mark :: mark :: rest)).take 3 =
            [mark, mark, mark]
      · -- The text has ended: the closing marks are found before its own.
        obtain ⟨rfl, rfl | rfl⟩ := inner.of_closing known closing
        · refine (readMultiline?_closing known (mark :: rest)).trans ?_
          exact congrArg some (splitClosing_append (.inr (.inl rfl)) ends)
        · refine (readMultiline?_closing known (mark :: mark :: rest)).trans ?_
          exact congrArg some (splitClosing_append (.inr (.inr rfl)) ends)
      · have no_escape : ¬ (mark = '\\' ∧ mark = '"') := by
          rintro ⟨rfl, same⟩
          cases same
        exact readMultiline?_plain known.isPlain closing no_escape
          (hypothesis (by simpa using enough))
  | lineBreak inner hypothesis =>
      obtain ⟨fuel, rfl⟩ := Nat.exists_eq_add_one.mpr
        (Nat.lt_of_le_of_lt (Nat.zero_le _) enough)
      exact readMultiline?_break (hypothesis (by simpa using enough))
  | plain shown no_mark no_escape inner hypothesis =>
      obtain ⟨fuel, rfl⟩ := Nat.exists_eq_add_one.mpr
        (Nat.lt_of_le_of_lt (Nat.zero_le _) enough)
      refine readMultiline?_plain shown ?_ no_escape
        (hypothesis (by simpa using enough))
      intro closing
      exact no_mark (List.cons.inj closing).1
  | escape quote reads inner hypothesis =>
      obtain ⟨fuel, rfl⟩ := Nat.exists_eq_add_one.mpr
        (Nat.lt_of_le_of_lt (Nat.zero_le _) enough)
      subst quote
      rw [List.cons_append, List.append_assoc]
      simp only [List.length_cons, List.length_append] at enough
      exact readMultiline?_escape (reads _) (hypothesis (by omega))

end Lines

/-! ### What is written -/

theorem writtenLines_escapedCharacters
    (marks : Nat)
    (content : List Char) :
    WrittenLines '"' marks content (escapedCharacters true marks content) := by
  induction content generalizing marks with
  | nil => exact .nil
  | cons character content hypothesis =>
      rw [escapedCharacters]
      split
      next mark =>
        obtain ⟨-, rfl, few⟩ := mark
        exact .mark few (hypothesis (marks + 1))
      next =>
        split
        next lineBreak =>
          obtain ⟨-, rfl⟩ := lineBreak
          exact .lineBreak (hypothesis 0)
        next =>
          generalize written :
            escapeCharacter character = text
          have step := writtenCharacter_escapeCharacter character
          rw [written] at step
          cases step with
          | plain shown no_quote no_backslash =>
              exact .plain shown no_quote
                (fun escape => no_backslash escape.1) (hypothesis 0)
          | escape reads => exact .escape rfl reads (hypothesis 0)

theorem hasTriple_of_cons
    {mark first : Char}
    {rest : List Char}
    (no_triple : hasTriple mark (first :: rest) = false) :
    hasTriple mark rest = false := by
  match rest with
  | [] => rfl
  | [second] => rfl
  | second :: third :: rest =>
      rw [hasTriple, Bool.or_eq_false_iff] at no_triple
      exact no_triple.2

theorem hasTriple_of_append
    {mark : Char}
    {before rest : List Char}
    (no_triple : hasTriple mark (before ++ rest) = false) :
    hasTriple mark rest = false := by
  induction before with
  | nil => exact no_triple
  | cons first before hypothesis =>
      exact hypothesis (hasTriple_of_cons no_triple)

/-- Without escapes a text is written as it is, unless three marks in a row are
in it. -/
theorem writtenLines_self
    {marks : Nat}
    {content : List Char}
    (shown : ∀ character ∈ content,
      isPlain character = true ∨ character = '\n')
    (no_triple :
      hasTriple '\'' (List.replicate marks '\'' ++ content) = false) :
    WrittenLines '\'' marks content content := by
  induction content generalizing marks with
  | nil => exact .nil
  | cons character content hypothesis =>
      obtain ⟨first, further⟩ := List.forall_mem_cons.mp shown
      by_cases mark : character = '\''
      · subst mark
        have few : marks < 2 := by
          apply Nat.not_le.mp
          intro many
          obtain ⟨fewer, rfl⟩ := Nat.exists_eq_add_of_le' many
          rw [← List.replicate_append_replicate, List.append_assoc]
            at no_triple
          exact absurd (hasTriple_of_append no_triple) (by simp [hasTriple])
        have moved : List.replicate (marks + 1) '\'' ++ content =
            List.replicate marks '\'' ++ '\'' :: content := by
          simp [List.replicate_succ']
        exact .mark few (hypothesis further (moved ▸ no_triple))
      · have rest : WrittenLines '\'' 0 content content :=
          hypothesis further (hasTriple_of_cons (hasTriple_of_append no_triple))
        rcases first with plain | rfl
        · exact .plain plain mark (by simp) rest
        · exact .lineBreak rest

/-- A text begins with a line break only if what is written does. -/
theorem WrittenLines.head?_ne_break
    {mark : Char}
    (known : IsMark mark)
    {marks : Nat}
    {content text : List Char}
    (written : WrittenLines mark marks content text)
    (no_break : '\n' ∉ content)
    (rest : List Char) :
    ∃ first further, text ++ mark :: rest = first :: further ∧
      first ≠ '\n' ∧ first ≠ '\r' := by
  cases written with
  | nil => exact ⟨_, _, rfl, ne_break_of_isPlain known.isPlain⟩
  | mark => exact ⟨_, _, rfl, ne_break_of_isPlain known.isPlain⟩
  | lineBreak => simp at no_break
  | plain shown => exact ⟨_, _, rfl, ne_break_of_isPlain shown⟩
  | escape => exact ⟨_, _, rfl, by decide⟩

/-- The line break after the opening marks is skipped, and no other. -/
theorem WrittenLines.skipFirstBreak
    {mark : Char}
    (known : IsMark mark)
    {marks : Nat}
    {content text : List Char}
    (written : WrittenLines mark marks content text)
    (rest : List Char) :
    Toml.skipFirstBreak
        (leadingBreak content ++ (text ++ mark :: rest)) =
      text ++ mark :: rest := by
  rw [leadingBreak]
  split
  next => rfl
  next no_break =>
    have absent : '\n' ∉ content := by simpa using no_break
    obtain ⟨first, further, same, no_feed, no_return⟩ :=
      written.head?_ne_break known absent rest
    rw [same, List.nil_append, Toml.skipFirstBreak.eq_3]
    · intro _ equal
      exact no_feed (List.cons.inj equal).1
    · intro _ equal
      exact no_return (List.cons.inj equal).1

/-! ## The styles -/

namespace TextStyle

/-- Whether a text can be written in a style. -/
def Carries (content : List Char) : TextStyle → Prop
  | basic => True
  | literal => ∀ character ∈ content,
    isPlain character = true ∧ character ≠ '\''
  | multilineBasic => True
  | multilineLiteral =>
    (∀ character ∈ content, isPlain character = true ∨ character = '\n') ∧
      hasTriple '\'' content = false

theorem isPlain_of_isHidden_eq_false
    {character : Char}
    (visible : isHidden character = false) :
    isPlain character = true ∨ character = '\n' := by
  simp only [isHidden, Bool.or_eq_false_iff, Bool.and_eq_false_iff,
    decide_eq_false_iff_not, ne_eq, Decidable.not_not] at visible
  obtain ⟨(high | tab) | lineBreak, no_delete⟩ := visible
  · simp [isPlain, Nat.not_lt.mp high, no_delete]
  · exact .inl (by rw [tab]; rfl)
  · exact .inr lineBreak

/-- The style that is chosen for a text can carry it. -/
theorem carries_choose (content : List Char) :
    (choose content).Carries content := by
  have shown_of_any : content.any isHidden = false → ∀ character ∈ content,
      isPlain character = true ∨ character = '\n' :=
    fun none character member =>
      isPlain_of_isHidden_eq_false
        (Bool.not_eq_true _ ▸ List.any_eq_false.mp none character member)
  rw [choose]
  split
  next => trivial
  split
  next literal =>
    simp only [Bool.not_eq_true', Bool.or_eq_false_iff,
      List.contains_eq_mem, decide_eq_false_iff_not] at literal
    obtain ⟨⟨visible, no_mark⟩, no_break⟩ := literal
    intro character member
    rcases shown_of_any visible character member with plain | rfl
    · exact ⟨plain, fun mark => no_mark (mark ▸ member)⟩
    · exact absurd member no_break
  split
  next => trivial
  split
  next multiline =>
    simp only [Bool.not_eq_true', Bool.or_eq_false_iff] at multiline
    exact ⟨shown_of_any multiline.1, multiline.2⟩
  split
  next => trivial
  next => trivial

/-- What is written between threefold marks is read back. -/
theorem readMultiline?_of_writtenLines
    {mark : Char}
    (known : IsMark mark)
    {content text rest : List Char}
    (written : WrittenLines mark 0 content text)
    (ends : rest.head? ≠ some mark) :
    let opened :=
      leadingBreak content ++ (text ++ mark :: mark :: mark :: rest)
    readMultiline? mark (opened.length + 1) (skipFirstBreak opened) =
      some (content, rest) := by
  intro opened
  rw [written.skipFirstBreak known]
  apply written.read known ends
  simp only [opened, List.length_append, List.length_cons]
  omega

theorem readString?_basic
    {text content rest : List Char}
    (no_triple : ∀ further, text ≠ '"' :: '"' :: further)
    (read : readBasic? (text.length + 1) text = some (content, rest)) :
    readString? ('"' :: text) = some (String.ofList content, rest) := by
  simp only [readString?, read]
  rfl

theorem readString?_literal
    {text content rest : List Char}
    (no_triple : ∀ further, text ≠ '\'' :: '\'' :: further)
    (read : readLiteral? text = some (content, rest)) :
    readString? ('\'' :: text) = some (String.ofList content, rest) := by
  simp only [readString?, read]
  rfl

/-- A text does not begin with two marks when it begins with none, or consists
of one. -/
theorem ne_two_marks
    {mark : Char}
    {text rest : List Char}
    (no_mark : text.head? ≠ some mark)
    (ends : rest.head? ≠ some mark)
    (further : List Char) :
    text ++ mark :: rest ≠ mark :: mark :: further := by
  intro same
  cases text with
  | nil => simp_all
  | cons first text => simp_all

/-- A text is read back from every style that can carry it, if no further mark
stands after it. -/
theorem Carries.readString?
    {style : TextStyle}
    {content : List Char}
    (carries : style.Carries content)
    {rest : List Char}
    (ends : ∀ mark ∈ rest.head?, ¬ IsMark mark) :
    Toml.readString? (style.characters content ++ rest) =
      some (String.ofList content, rest) := by
  have no_quote : rest.head? ≠ some '"' := fun head =>
    ends '"' head (.inl rfl)
  have no_apostrophe : rest.head? ≠ some '\'' := fun head =>
    ends '\'' head (.inr rfl)
  cases style with
  | basic =>
      have first := head?_flatMap_escapeCharacter content
      have short := length_le_flatMap_escapeCharacter content
      simp only [characters, escapedCharacters_false, List.cons_append,
        List.nil_append, List.append_assoc]
      apply readString?_basic (ne_two_marks first no_quote)
      apply readBasic?_append
      rw [List.length_append]
      omega
  | literal =>
      have first : content.head? ≠ some '\'' := fun head =>
        (carries '\'' (List.mem_of_mem_head? head)).2 rfl
      simp only [characters, List.cons_append, List.nil_append,
        List.append_assoc]
      exact readString?_literal (ne_two_marks first no_apostrophe)
        (readLiteral?_append carries rest)
  | multilineBasic =>
      have written := writtenLines_escapedCharacters 0 content
      have read := readMultiline?_of_writtenLines (.inl rfl) written no_quote
      simp only [characters, List.cons_append, List.nil_append,
        List.append_assoc, Toml.readString?]
      rw [read]
      rfl
  | multilineLiteral =>
      have written := @writtenLines_self 0 content carries.1 carries.2
      have read :=
        readMultiline?_of_writtenLines (.inr rfl) written no_apostrophe
      simp only [characters, List.cons_append, List.nil_append,
        List.append_assoc, Toml.readString?]
      rw [read]
      rfl

end TextStyle

/-- A text that is written in quotation marks is read back. -/
theorem readString?_quoted
    (content : String)
    {rest : List Char}
    (ends : ∀ mark ∈ rest.head?, ¬ IsMark mark) :
    readString? (quoted content ++ rest) = some (content, rest) := by
  have read := (TextStyle.carries_choose content.toList).readString? ends
  rwa [String.ofList_toList] at read

end Toolpath.Toml
