import Toolpath.Proofs.SettingsInJson

/-!
# Partial records in JSON

A record is read from an object whatever the order of its fields and whatever
stands between them, and from an array of its first fields.  This module says
which values hold some of the fields of a record, and proves that these fields
are found in them, each with what has been written for it, and that no others
are.  An object that holds a field twice is no record.

A number text is evaluated by scaling.  `ScalesTo` says of a value that scaling
finds the nearest double where one of the given doubles is written.
-/

namespace Toolpath.Json

open Number (Numeral)

/-! ## Texts of a value -/

/-- A text is one of a value if it spells the value between blanks. -/
def IsTextOf (text : String) (value : Value) : Prop :=
  ∃ before content after : List Char,
    IsBlank before ∧ Spelled (.value value) content ∧ IsBlank after ∧
      text = String.ofList (before ++ (content ++ after))

theorem isTextOf_compactText
    {value : Value}
    (wellFormed : value.WellFormed) :
    IsTextOf value.compactText value :=
  ⟨[], compact value, [], isBlank_nil, spelled_compact value wellFormed,
    isBlank_nil, by simp [Value.compactText]⟩

theorem isTextOf_indentedText
    {value : Value}
    (wellFormed : value.WellFormed) :
    IsTextOf value.indentedText value :=
  ⟨[], indented 0 value, [], isBlank_nil, spelled_indented 0 value wellFormed,
    isBlank_nil, by simp [Value.indentedText]⟩

theorem IsTextOf.read?_eq
    {text : String}
    {value : Value}
    (spelled : IsTextOf text value) :
    read? text = some value := by
  rcases spelled with
    ⟨before, content, after, blankBefore, spelled, blankAfter, rfl⟩
  rw [read?, String.toList_ofList]
  exact spelled.readCharacters? blankBefore blankAfter

/-! ## Members of objects -/

/-- The number of members with a name is the number of times that the name is
among the keys. -/
theorem length_membersNamed
    (name : String)
    (members : List (String × Value)) :
    (membersNamed name
        (members.map fun (key, value) => (some key, value))).length =
      (members.map Prod.fst).count name := by
  induction members with
  | nil => rfl
  | cons member members hypothesis =>
      rw [List.map_cons, membersNamed_cons, List.map_cons, List.count_cons]
      by_cases same : member.1 = name
      · simp [same, hypothesis]
      · simp [same, hypothesis]

theorem mem_of_mem_membersNamed
    {name : String}
    {members : List (Option String × Value)}
    {value : Value}
    (found : value ∈ membersNamed name members) :
    (some name, value) ∈ members := by
  simp only [membersNamed, List.mem_map, List.mem_filter] at found
  rcases found with ⟨⟨key, content⟩, ⟨mem, same⟩, rfl⟩
  rwa [← eq_of_beq same]

/-- A key is repeated if two members have it. -/
def Repeats
    (name : String)
    (members : List (Option String × Value)) :
    Prop :=
  ∃ first second,
    List.Sublist [(some name, first), (some name, second)] members

/-- A repeated key is not read as a field. -/
theorem Repeats.field?_eq_none
    {name : String}
    {members : List (Option String × Value)}
    (repeats : Repeats name members) :
    field? members name = none := by
  rcases repeats with ⟨first, second, twice⟩
  have named : List.Sublist [first, second] (membersNamed name members) := by
    simpa [membersNamed] using
      (twice.filter fun member => member.1 == some name).map Prod.snd
  have length := named.length_le
  rw [field?]
  split
  next empty => simp [empty] at length
  next value single => simp [single] at length
  next => rfl

/-- One field that is not read is enough to read none. -/
theorem mapM_eq_none_of_mem
    {names : List String}
    {find : String → Option (Option Value)}
    {name : String}
    (known : name ∈ names)
    (missing : find name = none) :
    names.mapM find = none := by
  induction names with
  | nil => cases known
  | cons first names hypothesis =>
      rw [List.mapM_cons]
      rcases List.mem_cons.mp known with rfl | later
      · rw [missing]
        rfl
      · rw [hypothesis later]
        cases find first <;> rfl

theorem mapM_eq_some_map
    {names : List String}
    {find : String → Option (Option Value)}
    {field : String → Option Value}
    (found : ∀ name ∈ names, find name = some (field name)) :
    names.mapM find = some (names.map field) := by
  induction names with
  | nil => rfl
  | cons first names hypothesis =>
      rw [List.forall_mem_cons] at found
      rw [List.mapM_cons, found.1, hypothesis found.2]
      rfl

/-- An object that repeats a field is no record. -/
theorem Repeats.recordFields?_eq_none
    {name : String}
    {members : List (Option String × Value)}
    (repeats : Repeats name members)
    {names : List String}
    (known : name ∈ names) :
    recordFields? names (.object members) = none := by
  rw [recordFields?, objectFields?,
    mapM_eq_none_of_mem known repeats.field?_eq_none, ite_self]

/-- A member of an object is its field, unless its key is repeated. -/
theorem field?_of_mem
    {name : String}
    {value : Value}
    {members : List (Option String × Value)}
    (mem : (some name, value) ∈ members) :
    field? members name = none ∨ field? members name = some (some value) := by
  have named : value ∈ membersNamed name members := by
    simp only [membersNamed, List.mem_map, List.mem_filter]
    exact ⟨(some name, value), ⟨mem, beq_self_eq_true _⟩, rfl⟩
  rw [field?]
  split
  next empty => simp [empty] at named
  next only single =>
    rw [single, List.mem_singleton] at named
    exact .inr (by rw [named])
  next => exact .inl rfl

/-- The fields of an object, if it can be read as a record, have among them
every known member. -/
theorem recordFields?_of_mem
    {names : List String}
    {name : String}
    (known : name ∈ names)
    {value : Value}
    {members : List (Option String × Value)}
    (mem : (some name, value) ∈ members) :
    recordFields? names (.object members) = none ∨
      ∃ field : String → Option Value,
        recordFields? names (.object members) = some (names.map field) ∧
          field name = some value := by
  rw [recordFields?, objectFields?]
  split
  next =>
    by_cases unread : ∃ other ∈ names, field? members other = none
    · rcases unread with ⟨other, otherKnown, missing⟩
      exact .inl (mapM_eq_none_of_mem otherKnown missing)
    · push Not at unread
      refine .inr ⟨fun name => (field? members name).getD none, ?_, ?_⟩
      · refine mapM_eq_some_map fun other otherKnown => ?_
        rcases Option.ne_none_iff_exists'.mp (unread other otherKnown) with
          ⟨field, found⟩
        rw [found, Option.getD_some]
      · have found := (field?_of_mem mem).resolve_left (unread name known)
        simp only [found, Option.getD_some]
  next => exact .inl rfl

/-! ## Arrays as records -/

/-- The elements of an array are the first fields of a record. -/
theorem arrayFields?_eq_find
    {names : List String}
    (distinct : names.Nodup)
    {elements : List Value}
    (short : elements.length ≤ names.length) :
    arrayFields? names elements =
      some (names.map fun name =>
        ((names.zip elements).find? fun member => member.1 == name).map
          Prod.snd) := by
  induction names generalizing elements with
  | nil =>
      obtain rfl := List.length_eq_zero_iff.mp (Nat.le_zero.mp short)
      rfl
  | cons first names hypothesis =>
      rw [List.nodup_cons] at distinct
      cases elements with
      | nil =>
          have fewer : ([] : List Value).length ≤ names.length :=
            Nat.zero_le _
          have tail := hypothesis distinct.2 fewer
          rw [arrayFields?, tail]
          simp
      | cons element elements =>
          have tail := hypothesis distinct.2 (Nat.le_of_succ_le_succ short)
          rw [arrayFields?, tail]
          simp only [Option.map_some, List.map_cons, List.zip_cons_cons,
            List.find?_cons_of_pos, beq_self_eq_true]
          congr 2
          refine List.map_congr_left fun name mem => ?_
          have other : first ≠ name := fun same => distinct.1 (same ▸ mem)
          rw [List.find?_cons_of_neg (by simpa using other)]

theorem map_fst_zip_eq_take
    (names : List String)
    (elements : List Value) :
    (names.zip elements).map Prod.fst = names.take elements.length := by
  induction names generalizing elements with
  | nil => simp
  | cons name names hypothesis =>
      cases elements with
      | nil => rfl
      | cons element elements =>
          rw [List.zip_cons_cons, List.map_cons, hypothesis,
            List.length_cons, List.take_succ_cons]

/-- An array of the first fields has the fields of an object that holds them by
their names. -/
theorem recordFields?_array
    {names : List String}
    (distinct : names.Nodup)
    {elements : List Value}
    (short : elements.length ≤ names.length) :
    recordFields? names (.array elements) =
      recordFields? names (.record (names.zip elements)) := by
  have keys : ((names.zip elements).map Prod.fst).Nodup := by
    rw [map_fst_zip_eq_take]
    exact distinct.sublist (List.take_sublist ..)
  rw [recordFields?_record names keys, recordFields?,
    arrayFields?_eq_find distinct short]

/-! ## Records with some of their fields -/

/-- A value that holds the chosen ones of the named fields: an object among
whose keys these are, each once and in any order, and that has any other
members beside them, or an array with the first fields in their declared order.
The values of the fields are those that may be written for them. -/
inductive Holds
    (names : List String)
    (Writes : String → Value → Prop) :
    List String → Value → Prop where
  | object
      {chosen : List String}
      {members : List (String × Value)}
      (distinct : chosen.Nodup)
      (once :
        ((members.map Prod.fst).filter fun key => key ∈ names).Perm chosen)
      (written :
        ∀ member ∈ members, member.1 ∈ names → Writes member.1 member.2) :
      Holds names Writes chosen (Value.record members)
  | array
      {chosen : List String}
      {elements : List Value}
      (leading : chosen <+: names)
      (written : List.Forall₂ Writes chosen elements) :
      Holds names Writes chosen (.array elements)

/-- The fields of an array by their names. -/
theorem zip_of_leading
    {names chosen : List String}
    (leading : chosen <+: names)
    {elements : List Value}
    (length : chosen.length = elements.length) :
    names.zip elements = chosen.zip elements := by
  rcases leading with ⟨others, rfl⟩
  have split : (chosen ++ others).zip (elements ++ []) =
      chosen.zip elements ++ others.zip [] := List.zip_append length
  rwa [List.append_nil, List.zip_nil_right, List.append_nil] at split

/-- What is found for a field of a value: what has been written for it if it is
a chosen one, and nothing otherwise. -/
def IsFound
    (Writes : String → Value → Prop)
    (chosen : List String)
    (value : Value)
    (name : String) :
    Option Value → Prop
  | some field =>
    name ∈ chosen ∧ Writes name field ∧ field.numerals ⊆ value.numerals
  | none => name ∉ chosen

theorem IsFound.mono
    {Writes : String → Value → Prop}
    {chosen : List String}
    {value larger : Value}
    (more : value.numerals ⊆ larger.numerals)
    {name : String}
    {field : Option Value}
    (found : IsFound Writes chosen value name field) :
    IsFound Writes chosen larger name field := by
  cases field with
  | none => exact found
  | some field => exact ⟨found.1, found.2.1, List.Subset.trans found.2.2 more⟩

theorem numerals_subset_record
    {members : List (String × Value)}
    {member : String × Value}
    (mem : member ∈ members) :
    member.2.numerals ⊆ (Value.record members).numerals := by
  rw [Value.record, Value.numerals]
  induction members with
  | nil => cases mem
  | cons first members hypothesis =>
      rw [List.map_cons, memberNumerals]
      rcases List.mem_cons.mp mem with rfl | later
      · exact List.subset_append_left _ _
      · exact List.Subset.trans (hypothesis later)
          (List.subset_append_right _ _)

theorem numerals_record_zip
    (names : List String)
    (elements : List Value) :
    (Value.record (names.zip elements)).numerals ⊆
      (Value.array elements).numerals := by
  rw [Value.record, Value.numerals, Value.numerals]
  induction names generalizing elements with
  | nil => simp [memberNumerals]
  | cons name names hypothesis =>
      cases elements with
      | nil => simp [memberNumerals]
      | cons element elements =>
          rw [List.zip_cons_cons, List.map_cons, memberNumerals,
            elementNumerals]
          exact List.append_subset.mpr ⟨List.subset_append_left _ _,
            List.Subset.trans (hypothesis elements)
              (List.subset_append_right _ _)⟩

section Fields

variable
    {names chosen : List String}
    {Writes : String → Value → Prop}

/-- A field of an object is found whatever stands around it. -/
theorem exists_field_record
    {members : List (String × Value)}
    (distinct : chosen.Nodup)
    (once :
      ((members.map Prod.fst).filter fun key => key ∈ names).Perm chosen)
    (written :
      ∀ member ∈ members, member.1 ∈ names → Writes member.1 member.2)
    {name : String}
    (known : name ∈ names) :
    ∃ field,
      field? (members.map fun (key, value) => (some key, value)) name =
          some field ∧
        IsFound Writes chosen (Value.record members) name field := by
  have count := length_membersNamed name members
  rw [← List.count_filter (p := fun key => key ∈ names)
    (by simpa using known), once.count_eq, distinct.count] at count
  rw [field?]
  cases found : membersNamed name
      (members.map fun (key, value) => (some key, value)) with
  | nil =>
      refine ⟨none, rfl, fun mem => ?_⟩
      rw [found, if_pos mem] at count
      cases count
  | cons value others =>
      rw [found, List.length_cons] at count
      split at count
      next mem =>
        obtain rfl := List.length_eq_zero_iff.mp (Nat.succ.inj count)
        have member : (some name, value) ∈
            members.map fun (key, value) => (some key, value) := by
          refine mem_of_mem_membersNamed ?_
          rw [found]
          exact List.mem_cons_self
        rcases List.mem_map.mp member with ⟨⟨key, content⟩, mem_members, same⟩
        cases same
        exact ⟨some value, rfl, mem, written _ mem_members known,
          numerals_subset_record mem_members⟩
      next => cases count

theorem exists_fields_record
    {members : List (String × Value)}
    (distinct : chosen.Nodup)
    (once :
      ((members.map Prod.fst).filter fun key => key ∈ names).Perm chosen)
    (written :
      ∀ member ∈ members, member.1 ∈ names → Writes member.1 member.2) :
    ∃ field : String → Option Value,
      recordFields? names (Value.record members) = some (names.map field) ∧
        ∀ name ∈ names,
          IsFound Writes chosen (Value.record members) name (field name) := by
  let keyed := members.map fun (key, value) => (some key, value)
  have each {name : String} (known : name ∈ names) :=
    exists_field_record distinct once written known
  refine ⟨fun name => (field? keyed name).getD none, ?_, ?_⟩
  · rw [Value.record, recordFields?, objectFields?, if_pos (by simp)]
    refine mapM_eq_some_map fun name known => ?_
    rcases each known with ⟨field, found, -⟩
    rw [found, Option.getD_some]
  · intro name known
    rcases each known with ⟨field, found, isFound⟩
    simpa only [keyed, found, Option.getD_some] using isFound

/-- What a value holds is found in it. -/
theorem Holds.exists_fields
    {value : Value}
    (holds : Holds names Writes chosen value)
    (distinct : names.Nodup) :
    ∃ field : String → Option Value,
      recordFields? names value = some (names.map field) ∧
        ∀ name ∈ names, IsFound Writes chosen value name (field name) := by
  cases holds with
  | object chosenDistinct once written =>
      exact exists_fields_record chosenDistinct once written
  | @array elements leading written =>
      have length := written.length_eq
      have short : elements.length ≤ names.length :=
        length ▸ leading.length_le
      have pairs := zip_of_leading leading length
      have keys : (names.zip elements).map Prod.fst = chosen := by
        rw [pairs, List.map_fst_zip length.le]
      have once : (((names.zip elements).map Prod.fst).filter
          fun key => key ∈ names).Perm chosen := by
        rw [keys, List.filter_eq_self.mpr]
        intro key mem
        simpa using leading.subset mem
      have named : ∀ member ∈ names.zip elements,
          member.1 ∈ names → Writes member.1 member.2 := by
        rw [pairs]
        exact fun member mem _ => (List.forall₂_iff_zip.mp written).2 mem
      rcases exists_fields_record (distinct.sublist leading.sublist) once named
        with ⟨field, fields, found⟩
      exact ⟨field, (recordFields?_array distinct short).trans fields,
        fun name known =>
          (found name known).mono (numerals_record_zip names elements)⟩

/-- A field that need not be there is read as what has been chosen, and has its
default otherwise. -/
theorem IsFound.optionalField?_eq
    {value : Value}
    {name : String}
    {field : Option Value}
    (found : IsFound Writes chosen value name field)
    {Content : Type}
    (read : Value → Option Content)
    {content : Content}
    (reads :
      ∀ field : Value, Writes name field →
        field.numerals ⊆ value.numerals → read field = some content)
    (default : Content) :
    optionalField? read default field =
      some (if name ∈ chosen then content else default) := by
  cases field with
  | none => rw [optionalField?, if_neg found]
  | some field =>
      rw [optionalField?, if_pos found.1, reads field found.2.1 found.2.2]

/-- A field that has to be there is read if it has been chosen. -/
theorem IsFound.requiredField?_eq
    {value : Value}
    {name : String}
    {field : Option Value}
    (found : IsFound Writes chosen value name field)
    (mem : name ∈ chosen)
    {Content : Type}
    {read : Value → Option Content}
    {content : Content}
    (reads :
      ∀ field : Value, Writes name field →
        field.numerals ⊆ value.numerals → read field = some content) :
    requiredField? read field = some content := by
  cases field with
  | none => exact (found mem).elim
  | some field => exact reads field found.2.1 found.2.2

end Fields

/-- A record of all fields holds the chosen ones when the others are left
out. -/
theorem exists_holds
    {names chosen : List String}
    {Writes : String → Value → Prop}
    (distinct : names.Nodup)
    (all : List (String × Value))
    (keys : all.map Prod.fst = names)
    (written :
      ∀ member ∈ all, member.2.WellFormed ∧ Writes member.1 member.2)
    (chosenDistinct : chosen.Nodup)
    (known : chosen ⊆ names) :
    ∃ value : Value, value.WellFormed ∧ Holds names Writes chosen value := by
  have kept : (all.filter fun member => member.1 ∈ chosen).map Prod.fst =
      names.filter fun key => key ∈ chosen := by
    rw [← keys, List.filter_map]
    rfl
  have member {member} (mem : member ∈ all.filter fun member =>
      member.1 ∈ chosen) :=
    written member (List.mem_of_mem_filter mem)
  refine ⟨.record (all.filter fun member => member.1 ∈ chosen),
    Value.wellFormed_record fun _ mem => (member mem).1,
    .object chosenDistinct ?_ fun _ mem _ => (member mem).2⟩
  rw [kept, List.filter_filter, List.perm_ext_iff_of_nodup
    (distinct.filter _) chosenDistinct]
  intro key
  simpa using fun mem => known mem

/-! ## Numbers -/

/-- A value is a number whose nearest double is the given one. -/
def DenotesDouble (double : Float) (value : Value) : Prop :=
  ∃ numeral, value = .number numeral ∧ numeral.toFinite? = some double

/-- A value is a number that the digits of the given one spell. -/
def DenotesNatural (natural : Nat) (value : Value) : Prop :=
  ∃ numeral, value = .number numeral ∧ numeral.toNat? = some natural

/-- Whether a double is found by scaling wherever a numeral in a value denotes
it. -/
def ScalesTo (value : Value) (doubles : List Float) : Prop :=
  ∀ double ∈ doubles, ∀ numeral ∈ value.numerals,
    numeral.toFinite? = some double → numeral.toScaled? = some double

theorem ScalesTo.of_subset
    {value part : Value}
    {doubles few : List Float}
    (scales : ScalesTo value doubles)
    (inside : part.numerals ⊆ value.numerals)
    (fewer : few ⊆ doubles) :
    ScalesTo part few :=
  fun double known numeral mem =>
    scales double (fewer known) numeral (inside mem)

theorem DenotesDouble.asFloat?_eq
    {double : Float}
    {field value : Value}
    (denotes : DenotesDouble double field)
    (inside : field.numerals ⊆ value.numerals)
    {doubles : List Float}
    (scales : ScalesTo value doubles)
    (known : double ∈ doubles) :
    field.asFloat? = some double := by
  rcases denotes with ⟨numeral, rfl, nearest⟩
  exact scales double known numeral (inside List.mem_cons_self) nearest

/-- Every finite double is denoted by a number. -/
theorem exists_denotesDouble
    {double : Float}
    (finite : double.isFinite = true) :
    ∃ value : Value, value.WellFormed ∧ DenotesDouble double value := by
  obtain ⟨negative, magnitudeBits, read⟩ :=
    (Number.isFinite_iff double).mp finite
  let numeral := Number.positionalNumeral true negative
    (Number.shortest .up magnitudeBits)
  have wellFormed : numeral.WellFormed :=
    Number.wellFormed_positionalNumeral true negative
      (Number.exponent_shortest_of_digits .up
        (Number.ofFloat_eq_finite read).1)
  exact ⟨.number numeral, by simpa [Value.WellFormed, Value.numerals],
    numeral, rfl, Number.toFinite?_positionalNumeral_shortest .up read⟩

theorem denotesNatural_natural (natural : Nat) :
    DenotesNatural natural (Value.natural natural) :=
  ⟨_, rfl, Numeral.toNat?_ofNat natural⟩

end Toolpath.Json
