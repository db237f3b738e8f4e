import Toolpath.Proofs.TomlScalars
import Toolpath.Toml.Reader

/-!
# Documents in TOML

A written document is a row of lines: the headers of its tables, their
assignments, and the blank lines between the tables.  This module proves that
every line is read as the statement that it was written for, whatever stands
after it, and that a document is read as the statements of its tables.
-/

namespace Toolpath.Toml

open Number (Numeral beginsNumber ne_of_beginsNumber)

/-! ## Values -/

/-- The value that is read from what is written. -/
def Scalar.value : Scalar → Value
  | .string content => .string content
  | .natural value => .integer value
  | .float value => .float value
  | .bool value => .bool value

/-- Whether a value can be read from what is written: a number has to be an
integer of the format, or a finite double. -/
def Scalar.Fits : Scalar → Prop
  | .natural value => value < 2 ^ 63
  | .float value => value.isFinite = true
  | .string _ => True
  | .bool _ => True

/-- A quoted text begins with a mark. -/
theorem exists_first_quoted (content : String) :
    ∃ mark further, quoted content = mark :: further ∧ IsMark mark := by
  rw [quoted]
  cases TextStyle.choose content.toList with
  | basic => exact ⟨_, _, rfl, .inl rfl⟩
  | literal => exact ⟨_, _, rfl, .inr rfl⟩
  | multilineBasic => exact ⟨_, _, rfl, .inl rfl⟩
  | multilineLiteral => exact ⟨_, _, rfl, .inr rfl⟩

section Values

variable {depth fuel : Nat} {first : Char} {further rest : List Char}

theorem readValue?_text
    (mark : IsMark first)
    {content : String}
    (read : readString? (first :: further) = some (content, rest)) :
    readValue? depth (fuel + 1) (first :: further) =
      some (.string content, rest) := by
  rcases mark with rfl | rfl
  · rw [readValue?.eq_2, read]
    rfl
  · rw [readValue?.eq_3, read]
    rfl

theorem readValue?_number (begins : beginsNumber first = true) :
    readValue? depth (fuel + 1) (first :: further) =
      readScalar? (first :: further) := by
  rw [readValue?.eq_6]
  · intro _ same
    exact ne_of_beginsNumber begins rfl (List.cons.inj same).1
  · intro _ same
    exact ne_of_beginsNumber begins rfl (List.cons.inj same).1
  · intro _ same
    exact ne_of_beginsNumber begins rfl (List.cons.inj same).1
  · intro _ same
    exact ne_of_beginsNumber begins rfl (List.cons.inj same).1

end Values

/-- A value is read up to the end of its line. -/
theorem Scalar.readValue?_characters
    {scalar : Scalar}
    (fits : scalar.Fits)
    (depth fuel : Nat)
    (rest : List Char) :
    readValue? depth (fuel + 1) (scalar.characters ++ '\n' :: rest) =
      some (scalar.value, '\n' :: rest) := by
  cases scalar with
  | string content =>
      have read := @readString?_quoted content ('\n' :: rest) (by simp [IsMark])
      obtain ⟨mark, further, same, known⟩ := exists_first_quoted content
      rw [same] at read
      rw [characters, same]
      exact readValue?_text known read
  | natural value =>
      have read := readScalar?_natural fits rest
      obtain ⟨first, further, same, begins⟩ := exists_first_digitsOf value rest
      rw [same] at read
      rw [characters, same, readValue?_number begins]
      exact read
  | float value =>
      have read := readScalar?_float fits rest
      obtain ⟨first, further, same, begins⟩ :=
        exists_first_floatCharacters fits rest
      rw [same] at read
      rw [characters, same, readValue?_number begins]
      exact read
  | bool value =>
      cases value with
      | true => rfl
      | false => rfl

theorem isSpace_of_beginsNumber
    {first : Char}
    (begins : beginsNumber first = true) :
    isSpace first = false := by
  have no_blank : first ≠ ' ' := ne_of_beginsNumber begins rfl
  have no_tab : first ≠ '\t' := ne_of_beginsNumber begins rfl
  simp [isSpace, no_blank, no_tab]

theorem skipSpace_cons
    {first : Char}
    (shown : isSpace first = false)
    (further : List Char) :
    skipSpace (first :: further) = first :: further :=
  List.dropWhile_cons_of_neg (by simp [shown])

/-- No blanks stand at the beginning of a value. -/
theorem Scalar.skipSpace_characters
    {scalar : Scalar}
    (fits : scalar.Fits)
    (rest : List Char) :
    skipSpace (scalar.characters ++ '\n' :: rest) =
      scalar.characters ++ '\n' :: rest := by
  cases scalar with
  | string content =>
      obtain ⟨mark, further, same, known⟩ := exists_first_quoted content
      rw [characters, same]
      apply skipSpace_cons
      rcases known with rfl | rfl
      · rfl
      · rfl
  | natural value =>
      obtain ⟨first, further, same, begins⟩ := exists_first_digitsOf value rest
      rw [characters, same]
      exact skipSpace_cons (isSpace_of_beginsNumber begins) further
  | float value =>
      obtain ⟨first, further, same, begins⟩ :=
        exists_first_floatCharacters fits rest
      rw [characters, same]
      exact skipSpace_cons (isSpace_of_beginsNumber begins) further
  | bool value =>
      cases value with
      | true => rfl
      | false => rfl

/-! ## Paths -/

/-- Whether a key is written without quotes. -/
def IsBare (key : String) : Prop :=
  key.toList ≠ [] ∧ key.toList.all isBareKey = true

instance (key : String) : Decidable (IsBare key) :=
  inferInstanceAs (Decidable (_ ∧ _))

/-- No character of a bare key has a meaning of its own. -/
theorem ne_of_isBareKey
    {first other : Char}
    (bare : isBareKey first = true)
    (no_key : isBareKey other = false) :
    first ≠ other := by
  rintro rfl
  rw [bare] at no_key
  cases no_key

theorem isSpace_of_isBareKey
    {first : Char}
    (bare : isBareKey first = true) :
    isSpace first = false := by
  have no_blank : first ≠ ' ' := ne_of_isBareKey bare rfl
  have no_tab : first ≠ '\t' := ne_of_isBareKey bare rfl
  simp [isSpace, no_blank, no_tab]

section Paths

variable {key : String} (bare : IsBare key) {rest : List Char}

include bare

theorem IsBare.exists_first (rest : List Char) :
    ∃ first further, key.toList ++ rest = first :: further ∧
      isBareKey first = true := by
  obtain ⟨some_character, all⟩ := bare
  obtain ⟨first, further, same⟩ := List.exists_cons_of_ne_nil some_character
  refine ⟨first, further ++ rest, by rw [same, List.cons_append], ?_⟩
  exact List.all_eq_true.mp all first (same ▸ List.mem_cons_self)

theorem IsBare.skipSpace_append (rest : List Char) :
    skipSpace (key.toList ++ rest) = key.toList ++ rest := by
  obtain ⟨first, further, same, begins⟩ := bare.exists_first rest
  rw [same]
  exact skipSpace_cons (isSpace_of_isBareKey begins) further

theorem IsBare.readKey?_append
    (ends : ∀ next ∈ rest.head?, isBareKey next = false) :
    readKey? (key.toList ++ rest) = some (key, rest) := by
  have all := List.all_eq_true.mp bare.2
  have taken : (key.toList ++ rest).takeWhile isBareKey = key.toList := by
    rw [List.takeWhile_append_of_pos all]
    cases rest with
    | nil => simp
    | cons next rest => simp [ends next rfl]
  have dropped : (key.toList ++ rest).dropWhile isBareKey = rest := by
    rw [List.dropWhile_append_of_pos all]
    cases rest with
    | nil => rfl
    | cons next rest => simp [ends next rfl]
  obtain ⟨first, further, same, begins⟩ := bare.exists_first rest
  rw [readKey?.eq_3, taken, dropped]
  · split
    next empty => exact absurd empty bare.1
    next => rw [String.ofList_toList]
  · intro _ quote
    rw [same] at quote
    exact ne_of_isBareKey begins rfl (List.cons.inj quote).1
  · intro _ apostrophe
    rw [same] at apostrophe
    exact ne_of_isBareKey begins rfl (List.cons.inj apostrophe).1

end Paths

/-- The characters of keys with dots between them. -/
theorem toList_intercalate_cons
    (key next : String)
    (path : List String) :
    (".".intercalate (key :: next :: path)).toList =
      key.toList ++ '.' :: (".".intercalate (next :: path)).toList := by
  simp

/-- Bare keys with dots between them are read as they are, up to a character
that no key goes on with. -/
theorem readPath?_append
    {path : List String}
    (some_key : path ≠ [])
    (bare : ∀ key ∈ path, IsBare key)
    {rest : List Char}
    (ends : ∀ next ∈ rest.head?, isBareKey next = false)
    (no_dot : (skipSpace rest).head? ≠ some '.')
    {fuel : Nat}
    (enough : path.length ≤ fuel) :
    readPath? fuel ((".".intercalate path).toList ++ rest) =
      some (path, skipSpace rest) := by
  induction path generalizing fuel with
  | nil => exact absurd rfl some_key
  | cons key path hypothesis =>
      obtain ⟨fuel, rfl⟩ := Nat.exists_eq_add_one.mpr
        (Nat.lt_of_lt_of_le (Nat.zero_lt_succ _) enough)
      obtain ⟨bareKey, barePath⟩ := List.forall_mem_cons.mp bare
      cases path with
      | nil =>
          have text : (".".intercalate [key]).toList = key.toList := by simp
          rw [text, readPath?.eq_2, bareKey.skipSpace_append,
            bareKey.readKey?_append ends]
          simp only [bind, Option.bind]
          split
          next dot =>
            rw [dot] at no_dot
            exact absurd rfl no_dot
          next => rfl
      | cons next path =>
          have read := hypothesis (List.cons_ne_nil next path) barePath
            (Nat.le_of_succ_le_succ enough)
          have dot : skipSpace
              ('.' :: ((".".intercalate (next :: path)).toList ++ rest)) =
                '.' :: ((".".intercalate (next :: path)).toList ++ rest) :=
            skipSpace_cons rfl _
          rw [toList_intercalate_cons, List.append_assoc, List.cons_append,
            readPath?.eq_2, bareKey.skipSpace_append,
            bareKey.readKey?_append (by simp +decide)]
          simp only [bind, Option.bind, dot, read]
          rfl

/-- A path that can be written without quotes, and be read again. -/
structure IsBarePath (path : List String) : Prop where
  some_key : path ≠ []
  bare : ∀ key ∈ path, IsBare key
  short : path.length < nestingLimit

namespace IsBarePath

variable {path : List String} (writable : IsBarePath path)

theorem singleton
    {key : String}
    (bare : IsBare key) :
    IsBarePath [key] :=
  ⟨List.cons_ne_nil key [], by simpa using bare,
    (by decide : 1 < nestingLimit)⟩

include writable

theorem exists_first (rest : List Char) :
    ∃ first further,
      (".".intercalate path).toList ++ rest = first :: further ∧
        isBareKey first = true := by
  obtain ⟨some_key, bare, -⟩ := writable
  obtain ⟨key, path, rfl⟩ := List.exists_cons_of_ne_nil some_key
  have bareKey := bare key List.mem_cons_self
  cases path with
  | nil => simpa using bareKey.exists_first rest
  | cons next path =>
      rw [toList_intercalate_cons, List.append_assoc]
      exact bareKey.exists_first _

theorem length_le : path.length ≤ (".".intercalate path).toList.length := by
  obtain ⟨-, bare, -⟩ := writable
  induction path with
  | nil => exact Nat.zero_le _
  | cons key path hypothesis =>
      obtain ⟨bareKey, barePath⟩ := List.forall_mem_cons.mp bare
      cases path with
      | nil => simpa [Nat.one_le_iff_ne_zero] using bareKey.1
      | cons next path =>
          have long := hypothesis barePath
          rw [toList_intercalate_cons]
          simp only [List.length_append, List.length_cons] at long ⊢
          omega

theorem readLimitedPath?_append
    {rest : List Char}
    (ends : ∀ next ∈ rest.head?, isBareKey next = false)
    (no_dot : (skipSpace rest).head? ≠ some '.') :
    readLimitedPath? ((".".intercalate path).toList ++ rest) =
      some (path, skipSpace rest) := by
  have enough := writable.length_le
  rw [readLimitedPath?, readPath?_append writable.some_key writable.bare ends
    no_dot (by rw [List.length_append]; omega)]
  simp only [bind, Option.bind, if_pos writable.short]
  rfl

end IsBarePath

/-! ## Lines -/

/-- Whether characters are a line that is read as a statement, whatever stands
after it. -/
structure IsLine
    (statement : Statement)
    (characters : List Char) : Prop where
  starts :
    ∃ first further, characters = first :: further ∧
      (first = '[' ∨ isBareKey first = true)
  reads : ∀ rest,
    readStatement? (characters ++ rest) = some (statement, rest)

theorem isLine_header
    {path : List String}
    (writable : IsBarePath path) :
    IsLine (.table path)
      ('[' :: (".".intercalate path).toList ++ [']', '\n']) := by
  refine ⟨⟨_, _, rfl, .inl rfl⟩, fun rest => ?_⟩
  have read := @IsBarePath.readLimitedPath?_append path writable
    (']' :: '\n' :: rest) (by simp +decide) (by simp +decide [skipSpace])
  obtain ⟨first, further, same, begins⟩ :=
    writable.exists_first (']' :: '\n' :: rest)
  rw [List.cons_append, List.cons_append, List.append_assoc,
    List.cons_append, List.cons_append, List.nil_append, readStatement?.eq_2,
    readTableHeader?, read]
  · rfl
  · intro _ bracket
    rw [same] at bracket
    exact ne_of_isBareKey begins rfl (List.cons.inj bracket).1

theorem readAssignment?_append
    {key : String}
    (bare : IsBare key)
    {scalar : Scalar}
    (fits : scalar.Fits)
    (rest : List Char) :
    readAssignment?
        (key.toList ++ [' ', '=', ' '] ++ scalar.characters ++ '\n' :: rest) =
      some (.assignment [key] scalar.value, '\n' :: rest) := by
  let text := scalar.characters ++ '\n' :: rest
  have path := @IsBarePath.readLimitedPath?_append [key] (.singleton bare)
    (' ' :: '=' :: ' ' :: text) (by simp +decide) (by simp +decide [skipSpace])
  have alone : (".".intercalate [key]).toList = key.toList := by simp
  have equals : skipSpace (' ' :: '=' :: ' ' :: text) = '=' :: ' ' :: text := rfl
  have blank : skipSpace (' ' :: text) = text :=
    Scalar.skipSpace_characters fits rest
  have value := Scalar.readValue?_characters fits 0 (' ' :: text).length rest
  rw [alone, equals] at path
  rw [List.append_assoc, List.append_assoc, readAssignment?]
  simp only [List.cons_append, List.nil_append]
  rw [path]
  simp only [blank]
  rw [value]
  rfl

theorem isLine_assignment
    {key : String}
    (bare : IsBare key)
    {scalar : Scalar}
    (fits : scalar.Fits) :
    IsLine (.assignment [key] scalar.value) (assignmentLine (key, scalar)) := by
  obtain ⟨first, further, same, begins⟩ := bare.exists_first
    ([' ', '=', ' '] ++ scalar.characters ++ ['\n'])
  have starts : assignmentLine (key, scalar) = first :: further := by
    rw [← same]
    simp [assignmentLine]
  refine ⟨⟨first, further, starts, .inr begins⟩, fun rest => ?_⟩
  have read := readAssignment?_append bare fits rest
  have no_bracket : first ≠ '[' := ne_of_isBareKey begins rfl
  have line : assignmentLine (key, scalar) ++ rest =
      key.toList ++ [' ', '=', ' '] ++ scalar.characters ++ '\n' :: rest := by
    simp [assignmentLine]
  rw [← line] at read
  rw [readStatement?.eq_3, read]
  · rfl
  · intro _ header
    rw [starts] at header
    exact no_bracket (List.cons.inj header).1
  · intro _ header
    rw [starts] at header
    exact no_bracket (List.cons.inj header).1

/-! ## Documents -/

/-- A text of lines that are read as the given statements, and of blank ones. -/
inductive Lines : List Statement → List Char → Prop where
  | nil : Lines [] []
  | blank
      {statements : List Statement}
      {text : List Char}
      (rest : Lines statements text) :
      Lines statements ('\n' :: text)
  | line
      {statement : Statement}
      {statements : List Statement}
      {characters text : List Char}
      (line : IsLine statement characters)
      (rest : Lines statements text) :
      Lines (statement :: statements) (characters ++ text)

theorem IsLine.skipTrivia_append
    {statement : Statement}
    {characters : List Char}
    (line : IsLine statement characters)
    (rest : List Char) :
    skipTrivia false (characters ++ rest) = characters ++ rest := by
  obtain ⟨first, further, rfl, rfl | begins⟩ := line.starts
  · rfl
  · have no_comment : first ≠ '#' := ne_of_isBareKey begins rfl
    have shown : isSpace first = false := isSpace_of_isBareKey begins
    rw [List.cons_append, skipTrivia.eq_5]
    · simp [no_comment, shown]
    · exact ne_of_isBareKey begins rfl
    · exact ne_of_isBareKey begins rfl

namespace Lines

variable {statements further : List Statement} {text furtherText : List Char}

theorem append
    (lines : Lines statements text)
    (rest : Lines further furtherText) :
    Lines (statements ++ further) (text ++ furtherText) := by
  induction lines with
  | nil => exact rest
  | blank _ hypothesis => exact .blank hypothesis
  | line line _ hypothesis =>
      rw [List.append_assoc]
      exact .line line hypothesis

/-- Lines are read as their statements. -/
theorem read
    (lines : Lines statements text)
    {fuel : Nat}
    (enough : text.length < fuel) :
    readStatements? fuel text = some statements := by
  induction lines generalizing fuel with
  | nil =>
      obtain ⟨fuel, rfl⟩ := Nat.exists_eq_add_one.mpr enough
      rfl
  | blank _ hypothesis =>
      obtain ⟨fuel, rfl⟩ := Nat.exists_eq_add_one.mpr
        (Nat.lt_of_le_of_lt (Nat.zero_le _) enough)
      exact hypothesis (Nat.lt_of_succ_lt enough)
  | @line statement statements characters text line _ hypothesis =>
      obtain ⟨fuel, rfl⟩ := Nat.exists_eq_add_one.mpr
        (Nat.lt_of_le_of_lt (Nat.zero_le _) enough)
      obtain ⟨first, further, same, -⟩ := line.starts
      have shorter : text.length < fuel := by
        rw [same] at enough
        simp only [List.cons_append, List.length_cons,
          List.length_append] at enough
        omega
      rw [readStatements?.eq_2, line.skipTrivia_append]
      split
      next empty => simp [same] at empty
      next =>
        rw [line.reads]
        simp only [bind, Option.bind, hypothesis shorter]
        rfl

theorem head?_ne_byteOrderMark (lines : Lines statements text) :
    text.head? ≠ some '\ufeff' := by
  cases lines with
  | nil => simp
  | blank => simp
  | line line =>
      obtain ⟨first, further, rfl, rfl | begins⟩ := line.starts
      · simp
      · simpa using ne_of_isBareKey begins (by decide)

/-- A document of lines is what comes of carrying out their statements. -/
theorem readCharacters?_eq
    (lines : Lines statements text) :
    readCharacters? text =
      (carryOut [] [] statements).map fun entries =>
        .table (finishEntries entries) := by
  have no_mark := lines.head?_ne_byteOrderMark
  rw [readCharacters?.eq_2, lines.read (Nat.lt_succ_self text.length)]
  · simp only [bind, Option.bind]
    cases carryOut [] [] statements with
    | none => rfl
    | some entries => rfl
  · rintro rest rfl
    exact no_mark rfl

end Lines

/-! ## Tables -/

/-- The statements that a table is written for. -/
def Table.statements (table : Table) : List Statement :=
  .table table.path ::
    table.entries.map fun (key, scalar) => .assignment [key] scalar.value

/-- A table that can be read from what is written. -/
structure Table.IsWritable (table : Table) : Prop where
  path : IsBarePath table.path
  keys : ∀ entry ∈ table.entries, IsBare entry.1
  values : ∀ entry ∈ table.entries, entry.2.Fits

theorem lines_assignments
    {entries : List (String × Scalar)}
    (keys : ∀ entry ∈ entries, IsBare entry.1)
    (values : ∀ entry ∈ entries, entry.2.Fits) :
    Lines
      (entries.map fun (key, scalar) => .assignment [key] scalar.value)
      (entries.flatMap assignmentLine) := by
  induction entries with
  | nil => exact .nil
  | cons entry entries hypothesis =>
      obtain ⟨bare, keys⟩ := List.forall_mem_cons.mp keys
      obtain ⟨fits, values⟩ := List.forall_mem_cons.mp values
      exact .line (isLine_assignment bare fits) (hypothesis keys values)

theorem lines_table
    {table : Table}
    (writable : table.IsWritable) :
    Lines table.statements table.characters :=
  .line (isLine_header writable.path)
    (lines_assignments writable.keys writable.values)

theorem lines_document
    {tables : List Table}
    (writable : ∀ table ∈ tables, table.IsWritable) :
    Lines (tables.flatMap Table.statements) (documentCharacters tables) := by
  induction tables with
  | nil => exact .nil
  | cons table tables hypothesis =>
      obtain ⟨first, further⟩ := List.forall_mem_cons.mp writable
      cases tables with
      | nil => simpa [documentCharacters] using lines_table first
      | cons next tables =>
          exact (lines_table first).append (.blank (hypothesis further))

/-- A document is read as what comes of the statements of its tables. -/
theorem readCharacters?_documentCharacters
    {tables : List Table}
    (writable : ∀ table ∈ tables, table.IsWritable) :
    readCharacters? (documentCharacters tables) =
      (carryOut [] [] (tables.flatMap Table.statements)).map fun entries =>
        .table (finishEntries entries) :=
  (lines_document writable).readCharacters?_eq

/-! ## Carrying out tables -/

/-- The entries of a table as nodes of an unfinished table. -/
def Table.nodes (table : Table) : Entries :=
  table.entries.map fun (key, scalar) => (key, .value scalar.value)

section Keys

variable {key : String} {before : Entries} (fresh : key ∉ before.map Prod.fst)

include fresh

theorem lookup_eq_none : lookup key before = none := by
  simp only [lookup, Option.map_eq_none_iff, List.find?_eq_none]
  intro entry member same
  exact fresh (List.mem_map.mpr ⟨entry, member, by simpa using same⟩)

theorem lookup_append_singleton (node : Node) :
    lookup key (before ++ [(key, node)]) = some node := by
  have absent := lookup_eq_none fresh
  rw [lookup, Option.map_eq_none_iff] at absent
  simp [lookup, List.find?_append, absent]

theorem store_eq_append (node : Node) :
    store key node before = before ++ [(key, node)] := by
  induction before with
  | nil => rfl
  | cons entry before hypothesis =>
      rw [List.map_cons, List.mem_cons, not_or] at fresh
      have other : (entry.1 == key) = false := by
        simpa using Ne.symm fresh.1
      simp [store, other, hypothesis fresh.2]

theorem store_append_singleton (node old : Node) :
    store key node (before ++ [(key, old)]) = before ++ [(key, node)] := by
  induction before with
  | nil => simp [store]
  | cons entry before hypothesis =>
      rw [List.map_cons, List.mem_cons, not_or] at fresh
      have other : (entry.1 == key) = false := by
        simpa using Ne.symm fresh.1
      simp [store, other, hypothesis fresh.2]

end Keys

theorem changeAt_append
    (change : Entries → Option Entries)
    (outer inner : List String) :
    changeAt change (outer ++ inner) = changeAt (changeAt change inner) outer := by
  induction outer with
  | nil => rfl
  | cons step outer hypothesis =>
      funext entries
      simp only [List.cons_append, changeAt, hypothesis]

/-- Whether the entries given by a function surround the table at a path: what
is changed there is changed in the table that the function is given. -/
def Surrounds (path : List String) (place : Entries → Entries) : Prop :=
  ∀ change inner, changeAt change path (place inner) = (change inner).map place

namespace Surrounds

theorem nil : Surrounds [] id := by
  intro change inner
  simp [changeAt]

/-- The table of a key surrounds what it holds. -/
theorem singleton
    {key : String}
    {before : Entries}
    (fresh : key ∉ before.map Prod.fst)
    (origin : Origin) :
    Surrounds [key] fun inner => before ++ [(key, .table origin inner)] := by
  intro change inner
  simp only [changeAt, lookup_append_singleton fresh]
  cases change inner with
  | none => rfl
  | some changed =>
      exact congrArg some
        (store_append_singleton fresh (.table origin changed) _)

theorem append
    {outer inner : List String}
    {place within : Entries → Entries}
    (surrounds : Surrounds outer place)
    (further : Surrounds inner within) :
    Surrounds (outer ++ inner) (place ∘ within) := by
  intro change entries
  rw [changeAt_append, Function.comp_apply, surrounds, further,
    Option.map_map]

end Surrounds

/-- Assignments of new keys are appended to the open table. -/
theorem carryOut_assignments
    {path : List String}
    {place : Entries → Entries}
    (surrounds : Surrounds path place)
    (inner : Entries)
    (fields : List (String × Scalar))
    (distinct :
      (inner.map Prod.fst ++ fields.map Prod.fst).Nodup)
    (rest : List Statement) :
    carryOut path (place inner)
        ((fields.map fun (key, scalar) =>
          .assignment [key] scalar.value) ++ rest) =
      carryOut path
        (place (inner ++ fields.map fun (key, scalar) =>
          (key, .value scalar.value)))
        rest := by
  induction fields generalizing inner with
  | nil => simp
  | cons field fields hypothesis =>
      obtain ⟨key, scalar⟩ := field
      have fresh : key ∉ inner.map Prod.fst := by
        intro member
        exact (List.nodup_append.mp distinct).2.2 key member key
          List.mem_cons_self rfl
      have assigned : assignPath [key] scalar.value inner =
          some (inner ++ [(key, .value scalar.value)]) := by
        simp [assignPath, assign, lookup_eq_none fresh]
      have further := hypothesis (inner ++ [(key, .value scalar.value)])
        (by simpa using distinct)
      simp only [List.map_cons, List.cons_append, carryOut,
        surrounds _ inner, assigned]
      simpa using further

/-- A table with a new key is put after what stands where its header says. -/
theorem carryOut_table
    {table : Table}
    {outer : List String}
    {key : String}
    (path : table.path = outer ++ [key])
    (distinct : (table.entries.map Prod.fst).Nodup)
    {place : Entries → Entries}
    (surrounds : Surrounds outer place)
    {before : Entries}
    (fresh : key ∉ before.map Prod.fst)
    (current : List String)
    (rest : List Statement) :
    carryOut current (place before) (table.statements ++ rest) =
      carryOut table.path
        (place (before ++ [(key, .table .header table.nodes)])) rest := by
  have opens : changeAt (openTable key) outer (place before) =
      some (place (before ++ [(key, .table .header [])])) := by
    rw [surrounds, openTable, lookup_eq_none fresh]
    simp only [store_eq_append fresh, Option.map_some]
  have assignments := carryOut_assignments
    (surrounds.append (.singleton fresh .header)) [] table.entries
    (by simpa using distinct) rest
  rw [← path] at assignments
  have last : table.path.getLastD "" = key := by simp [path]
  have front : table.path.dropLast = outer := by simp [path]
  simp only [Table.statements, List.cons_append, carryOut, last, front, opens]
  exact assignments

/-- The entries of a finished table. -/
def Table.fields (table : Table) : List (String × Value) :=
  table.entries.map fun (key, scalar) => (key, scalar.value)

theorem finishEntries_append (entries further : Entries) :
    finishEntries (entries ++ further) =
      finishEntries entries ++ finishEntries further := by
  induction entries with
  | nil => rfl
  | cons entry entries hypothesis =>
      rw [List.cons_append, finishEntries, hypothesis, finishEntries,
        List.cons_append]

theorem finishEntries_nodes (table : Table) :
    finishEntries table.nodes = table.fields := by
  obtain ⟨path, entries⟩ := table
  simp only [Table.nodes, Table.fields]
  induction entries with
  | nil => rfl
  | cons entry entries hypothesis =>
      rw [List.map_cons, finishEntries, hypothesis]
      rfl

end Toolpath.Toml
