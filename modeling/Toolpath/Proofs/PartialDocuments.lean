import Toolpath.Proofs.PartialRecords

/-!
# Partial documents of settings

A document of settings need not hold all of them.  It may hold any of the two
sections, and a section any of its fields, in any order and among further
members that nobody knows.  This module says which values hold a selection of
the fields of given settings, and proves that every text of such a value is
read as the settings with these fields and with the defaults for all others.
A section may also be an array with its first fields, which is read as the
object with these fields.  A document that holds a field or a section twice is
refused.

Number texts are evaluated by scaling, so that the statement about what is read
is one about documents in which that finds the nearest double wherever a field
is written.
-/

namespace Toolpath

open Json (Value)

theorem delayOfJson?_of_denotes
    {delay : UInt32}
    {value : Value}
    (denotes : Json.DenotesNatural delay.toNat value) :
    delayOfJson? value = some delay := by
  rcases denotes with ⟨numeral, rfl, spells⟩
  simp [delayOfJson?, Value.asNat?, spells, delay.toNat_lt]

/-! ## Points -/

namespace Point

/-- What may be written for a coordinate of a point. -/
structure Writes (point : Point) (name : String) (value : Value) : Prop where
  x : name = "x" → Json.DenotesDouble point.x value
  y : name = "y" → Json.DenotesDouble point.y value

/-- A point is held by its two coordinates. -/
def HeldBy (point : Point) (value : Value) : Prop :=
  Json.Holds ["x", "y"] point.Writes ["x", "y"] value

theorem HeldBy.ofJson?_eq
    {point : Point}
    {value : Value}
    (held : point.HeldBy value)
    (scales : Json.ScalesTo value point.doubles) :
    ofJson? value = some point := by
  rcases Json.Holds.exists_fields held (by decide) with ⟨field, fields, found⟩
  have x := (found "x" (by simp)).requiredField?_eq (by simp)
    fun part written inside =>
      (written.x rfl).asFloat?_eq inside scales (by simp [doubles])
  have y := (found "y" (by simp)).requiredField?_eq (by simp)
    fun part written inside =>
      (written.y rfl).asFloat?_eq inside scales (by simp [doubles])
  rw [ofJson?, fields]
  simp [x, y]

/-- What may be written for a home position: null if there is none. -/
inductive MayWrite : Option Point → Value → Prop where
  | none : MayWrite none .null
  | some
      {home : Point}
      {value : Value}
      (held : home.HeldBy value) :
      MayWrite (some home) value

theorem MayWrite.ofNullableJson?_eq
    {home : Option Point}
    {value : Value}
    (written : MayWrite home value)
    (scales : Json.ScalesTo value (home.elim [] doubles)) :
    ofNullableJson? value = Option.some home := by
  cases written with
  | none => rfl
  | some held =>
      have present : value ≠ .null := by
        rintro rfl
        cases held
      rw [ofNullableJson?.eq_2 value present, held.ofJson?_eq scales]
      rfl

end Point

/-! ## Sections -/

namespace MachineSettings

/-- What may be written for a field of the machine's settings. -/
structure Writes
    (machine : MachineSettings)
    (name : String)
    (value : Value) :
    Prop where
  feed : name = "xy_feedrate" → Json.DenotesDouble machine.feed value
  spindleOn : name = "spindle_on" → value = .string machine.spindleOn
  spindleOff : name = "spindle_off" → value = .string machine.spindleOff
  startDelay :
    name = "start_delay_ms" →
      Json.DenotesNatural machine.startDelay.toNat value
  stopDelay :
    name = "stop_delay_ms" →
      Json.DenotesNatural machine.stopDelay.toNat value

/-- The chosen fields, with the defaults for all others. -/
def choose
    (machine : MachineSettings)
    (chosen : List String) :
    MachineSettings :=
  let standard : MachineSettings := {}
  { feed :=
      if "xy_feedrate" ∈ chosen then machine.feed else standard.feed
    spindleOn :=
      if "spindle_on" ∈ chosen then machine.spindleOn
      else standard.spindleOn
    spindleOff :=
      if "spindle_off" ∈ chosen then machine.spindleOff
      else standard.spindleOff
    startDelay :=
      if "start_delay_ms" ∈ chosen then machine.startDelay
      else standard.startDelay
    stopDelay :=
      if "stop_delay_ms" ∈ chosen then machine.stopDelay
      else standard.stopDelay }

/-- A value holds the chosen fields of the machine's settings. -/
def HeldBy
    (machine : MachineSettings)
    (chosen : List String)
    (value : Value) :
    Prop :=
  Json.Holds fieldNames machine.Writes chosen value

theorem HeldBy.ofJson?_eq
    {machine : MachineSettings}
    {chosen : List String}
    {value : Value}
    (held : machine.HeldBy chosen value)
    (scales : Json.ScalesTo value machine.doubles) :
    ofJson? value = some (machine.choose chosen) := by
  rcases Json.Holds.exists_fields held (by decide) with ⟨field, fields, found⟩
  have feed := (found "xy_feedrate" (by decide)).optionalField?_eq
    Value.asFloat?
    (fun part written inside =>
      (written.feed rfl).asFloat?_eq inside scales (by simp [doubles]))
    ({} : MachineSettings).feed
  have spindleOn := (found "spindle_on" (by decide)).optionalField?_eq
    Value.asString?
    (fun part written _ => by rw [written.spindleOn rfl]; rfl)
    ({} : MachineSettings).spindleOn
  have spindleOff := (found "spindle_off" (by decide)).optionalField?_eq
    Value.asString?
    (fun part written _ => by rw [written.spindleOff rfl]; rfl)
    ({} : MachineSettings).spindleOff
  have startDelay := (found "start_delay_ms" (by decide)).optionalField?_eq
    delayOfJson?
    (fun part written _ => delayOfJson?_of_denotes (written.startDelay rfl))
    ({} : MachineSettings).startDelay
  have stopDelay := (found "stop_delay_ms" (by decide)).optionalField?_eq
    delayOfJson?
    (fun part written _ => delayOfJson?_of_denotes (written.stopDelay rfl))
    ({} : MachineSettings).stopDelay
  rw [ofJson?, fields]
  simp only [fieldNames, List.map_cons, List.map_nil, Option.bind_eq_bind,
    Option.bind_some, feed, spindleOn, spindleOff, startDelay, stopDelay]
  rfl

end MachineSettings

namespace OutputSettings

/-- What may be written for an output setting. -/
structure Writes
    (output : OutputSettings)
    (name : String)
    (value : Value) :
    Prop where
  units : name = "units" → value = output.units.toJson
  optimizeOrder :
    name = "optimize_order" → value = .bool output.optimizeOrder
  skipUnsupported :
    name = "skip_unsupported" → value = .bool output.skipUnsupported
  home : name = "home" → Point.MayWrite output.home value

/-- The chosen fields, with the defaults for all others. -/
def choose
    (output : OutputSettings)
    (chosen : List String) :
    OutputSettings :=
  let standard : OutputSettings := {}
  { units :=
      if "units" ∈ chosen then output.units else standard.units
    optimizeOrder :=
      if "optimize_order" ∈ chosen then output.optimizeOrder
      else standard.optimizeOrder
    skipUnsupported :=
      if "skip_unsupported" ∈ chosen then output.skipUnsupported
      else standard.skipUnsupported
    home :=
      if "home" ∈ chosen then output.home else standard.home }

/-- A value holds the chosen output settings. -/
def HeldBy
    (output : OutputSettings)
    (chosen : List String)
    (value : Value) :
    Prop :=
  Json.Holds fieldNames output.Writes chosen value

theorem doubles_eq_elim (output : OutputSettings) :
    output.doubles = output.home.elim [] Point.doubles := by
  rw [doubles]
  cases output.home <;> rfl

theorem HeldBy.ofJson?_eq
    {output : OutputSettings}
    {chosen : List String}
    {value : Value}
    (held : output.HeldBy chosen value)
    (scales : Json.ScalesTo value output.doubles) :
    ofJson? value = some (output.choose chosen) := by
  rcases Json.Holds.exists_fields held (by decide) with ⟨field, fields, found⟩
  have units := (found "units" (by decide)).optionalField?_eq
    MeasurementSystem.ofJson?
    (fun part written _ => by
      rw [written.units rfl]
      exact MeasurementSystem.ofJson?_toJson output.units)
    ({} : OutputSettings).units
  have optimizeOrder := (found "optimize_order" (by decide)).optionalField?_eq
    Value.asBool?
    (fun part written _ => by rw [written.optimizeOrder rfl]; rfl)
    ({} : OutputSettings).optimizeOrder
  have skipUnsupported :=
    (found "skip_unsupported" (by decide)).optionalField?_eq
      Value.asBool?
      (fun part written _ => by rw [written.skipUnsupported rfl]; rfl)
      ({} : OutputSettings).skipUnsupported
  have home := (found "home" (by decide)).optionalField?_eq
    Point.ofNullableJson?
    (fun part written inside =>
      (written.home rfl).ofNullableJson?_eq
        (scales.of_subset inside
          fun _ mem => output.doubles_eq_elim ▸ mem))
    ({} : OutputSettings).home
  rw [ofJson?, fields]
  simp only [fieldNames, List.map_cons, List.map_nil, Option.bind_eq_bind,
    Option.bind_some, units, optimizeOrder, skipUnsupported, home]
  rfl

end OutputSettings

/-! ## Documents -/

/-- Some of the named fields, each of them once. -/
structure Choice (names : List String) where
  fields : List String
  distinct : fields.Nodup := by decide
  known : fields ⊆ names := by decide

/-- Which sections a document has, and which fields its sections have. -/
structure Selection where
  sections : Choice Settings.sectionNames
  machine : Choice MachineSettings.fieldNames
  output : Choice OutputSettings.fieldNames

namespace Settings

/-- What may be written for a section. -/
structure Writes
    (settings : Settings)
    (selection : Selection)
    (name : String)
    (value : Value) :
    Prop where
  machine :
    name = "machine" →
      settings.machine.HeldBy selection.machine.fields value
  output :
    name = "output" →
      settings.output.HeldBy selection.output.fields value

/-- The selected fields of the selected sections, with the defaults for all
others. -/
def choose (settings : Settings) (selection : Selection) : Settings :=
  { machine :=
      if "machine" ∈ selection.sections.fields then
        settings.machine.choose selection.machine.fields
      else {}
    output :=
      if "output" ∈ selection.sections.fields then
        settings.output.choose selection.output.fields
      else {} }

/-- A value holds the selected fields of settings. -/
def HeldBy
    (settings : Settings)
    (selection : Selection)
    (value : Value) :
    Prop :=
  Json.Holds sectionNames (settings.Writes selection)
    selection.sections.fields value

theorem HeldBy.ofJson?_eq
    {settings : Settings}
    {selection : Selection}
    {value : Value}
    (held : settings.HeldBy selection value)
    (scales : Json.ScalesTo value settings.doubles) :
    ofJson? value = some (settings.choose selection) := by
  rcases Json.Holds.exists_fields held (by decide) with ⟨field, fields, found⟩
  have machine := (found "machine" (by decide)).optionalField?_eq
    MachineSettings.ofJson?
    (fun part written inside =>
      (written.machine rfl).ofJson?_eq
        (scales.of_subset inside (List.subset_append_left _ _)))
    {}
  have output := (found "output" (by decide)).optionalField?_eq
    OutputSettings.ofJson?
    (fun part written inside =>
      (written.output rfl).ofJson?_eq
        (scales.of_subset inside (List.subset_append_right _ _)))
    {}
  rw [ofJson?, fields]
  simp only [sectionNames, List.map_cons, List.map_nil, Option.bind_eq_bind,
    Option.bind_some, machine, output]
  rfl

end Settings

/-! ## Repeated keys -/

theorem Point.ofNullableJson?_eq_none_of_repeats
    {name : String}
    {members : List (Option String × Value)}
    (known : name ∈ ["x", "y"])
    (repeats : Json.Repeats name members) :
    ofNullableJson? (.object members) = none := by
  rw [ofNullableJson?.eq_2 _ (by simp), ofJson?,
    repeats.recordFields?_eq_none known]
  rfl

theorem MachineSettings.ofJson?_eq_none_of_repeats
    {name : String}
    {members : List (Option String × Value)}
    (known : name ∈ fieldNames)
    (repeats : Json.Repeats name members) :
    ofJson? (.object members) = none := by
  rw [ofJson?, repeats.recordFields?_eq_none known]
  rfl

namespace OutputSettings

theorem ofJson?_eq_none_of_repeats
    {name : String}
    {members : List (Option String × Value)}
    (known : name ∈ fieldNames)
    (repeats : Json.Repeats name members) :
    ofJson? (.object members) = none := by
  rw [ofJson?, repeats.recordFields?_eq_none known]
  rfl

theorem ofJson?_eq_none_of_home
    {value : Value}
    {members : List (Option String × Value)}
    (mem : (some "home", value) ∈ members)
    (unread : Point.ofNullableJson? value = none) :
    ofJson? (.object members) = none := by
  have known : "home" ∈ fieldNames := by decide
  rcases Json.recordFields?_of_mem known mem with
    refused | ⟨field, fields, found⟩
  · rw [ofJson?, refused]
    rfl
  · rw [ofJson?, fields]
    simp [fieldNames, found, Json.optionalField?, unread]

end OutputSettings

namespace Settings

/-- A document that holds a section, a field or a coordinate twice. -/
inductive RepeatsKey : Value → Prop where
  | sections
      {name : String}
      {members : List (Option String × Value)}
      (known : name ∈ sectionNames)
      (repeats : Json.Repeats name members) :
      RepeatsKey (.object members)
  | machine
      {name : String}
      {members fields : List (Option String × Value)}
      (mem : (some "machine", .object fields) ∈ members)
      (known : name ∈ MachineSettings.fieldNames)
      (repeats : Json.Repeats name fields) :
      RepeatsKey (.object members)
  | output
      {name : String}
      {members fields : List (Option String × Value)}
      (mem : (some "output", .object fields) ∈ members)
      (known : name ∈ OutputSettings.fieldNames)
      (repeats : Json.Repeats name fields) :
      RepeatsKey (.object members)
  | home
      {name : String}
      {members fields coordinates : List (Option String × Value)}
      (mem : (some "output", .object fields) ∈ members)
      (inner : (some "home", .object coordinates) ∈ fields)
      (known : name ∈ ["x", "y"])
      (repeats : Json.Repeats name coordinates) :
      RepeatsKey (.object members)

theorem ofJson?_eq_none_of_machine
    {value : Value}
    {members : List (Option String × Value)}
    (mem : (some "machine", value) ∈ members)
    (unread : MachineSettings.ofJson? value = none) :
    ofJson? (.object members) = none := by
  have known : "machine" ∈ sectionNames := by decide
  rcases Json.recordFields?_of_mem known mem with
    refused | ⟨field, fields, found⟩
  · rw [ofJson?, refused]
    rfl
  · rw [ofJson?, fields]
    simp [sectionNames, found, Json.optionalField?, unread]

theorem ofJson?_eq_none_of_output
    {value : Value}
    {members : List (Option String × Value)}
    (mem : (some "output", value) ∈ members)
    (unread : OutputSettings.ofJson? value = none) :
    ofJson? (.object members) = none := by
  have known : "output" ∈ sectionNames := by decide
  rcases Json.recordFields?_of_mem known mem with
    refused | ⟨field, fields, found⟩
  · rw [ofJson?, refused]
    rfl
  · rw [ofJson?, fields]
    simp [sectionNames, found, Json.optionalField?, unread]

/-- A document that repeats a key is refused. -/
theorem RepeatsKey.ofJson?_eq_none
    {value : Value}
    (repeated : RepeatsKey value) :
    ofJson? value = none := by
  cases repeated with
  | sections known repeats =>
      rw [ofJson?, repeats.recordFields?_eq_none known]
      rfl
  | machine mem known repeats =>
      exact ofJson?_eq_none_of_machine mem
        (MachineSettings.ofJson?_eq_none_of_repeats known repeats)
  | output mem known repeats =>
      exact ofJson?_eq_none_of_output mem
        (OutputSettings.ofJson?_eq_none_of_repeats known repeats)
  | home mem inner known repeats =>
      exact ofJson?_eq_none_of_output mem
        (OutputSettings.ofJson?_eq_none_of_home inner
          (Point.ofNullableJson?_eq_none_of_repeats known repeats))

end Settings

/-! ## Selections can be written -/

theorem Point.exists_heldBy
    {point : Point}
    (finite : ∀ double ∈ point.doubles, double.isFinite = true) :
    ∃ value : Value, value.WellFormed ∧ point.HeldBy value := by
  rcases Json.exists_denotesDouble (finite point.x (by simp [doubles])) with
    ⟨x, xWellFormed, xDenotes⟩
  rcases Json.exists_denotesDouble (finite point.y (by simp [doubles])) with
    ⟨y, yWellFormed, yDenotes⟩
  refine Json.exists_holds (by decide) [("x", x), ("y", y)] rfl ?_
    (by decide) (List.Subset.refl _)
  simp only [List.forall_mem_cons, List.not_mem_nil, false_implies,
    implies_true, and_true]
  exact ⟨⟨xWellFormed, fun _ => xDenotes, by simp⟩,
    yWellFormed, by simp, fun _ => yDenotes⟩

theorem MachineSettings.exists_heldBy
    {machine : MachineSettings}
    (finite : ∀ double ∈ machine.doubles, double.isFinite = true)
    (choice : Choice fieldNames) :
    ∃ value : Value, value.WellFormed ∧
      machine.HeldBy choice.fields value := by
  rcases Json.exists_denotesDouble (finite machine.feed (by simp [doubles]))
    with ⟨feed, feedWellFormed, feedDenotes⟩
  have start := Json.denotesNatural_natural machine.startDelay.toNat
  have stop := Json.denotesNatural_natural machine.stopDelay.toNat
  refine Json.exists_holds (by decide)
    [ ("xy_feedrate", feed),
      ("spindle_on", .string machine.spindleOn),
      ("spindle_off", .string machine.spindleOff),
      ("start_delay_ms", .natural machine.startDelay.toNat),
      ("stop_delay_ms", .natural machine.stopDelay.toNat) ]
    rfl ?_ choice.distinct choice.known
  simp only [List.forall_mem_cons, List.not_mem_nil, false_implies,
    implies_true, and_true]
  refine ⟨⟨feedWellFormed, ?_⟩, ⟨Value.wellFormed_string _, ?_⟩,
    ⟨Value.wellFormed_string _, ?_⟩, ⟨Value.wellFormed_natural _, ?_⟩,
    Value.wellFormed_natural _, ?_⟩
  all_goals constructor <;> simp_all

theorem Point.exists_mayWrite
    {home : Option Point}
    (finite : ∀ double ∈ home.elim [] doubles, double.isFinite = true) :
    ∃ value : Value, value.WellFormed ∧ MayWrite home value := by
  cases home with
  | none => exact ⟨.null, by simp [Value.WellFormed, Value.numerals], .none⟩
  | some home =>
      rcases exists_heldBy finite with ⟨value, wellFormed, held⟩
      exact ⟨value, wellFormed, .some held⟩

theorem OutputSettings.exists_heldBy
    {output : OutputSettings}
    (finite : ∀ double ∈ output.doubles, double.isFinite = true)
    (choice : Choice fieldNames) :
    ∃ value : Value, value.WellFormed ∧
      output.HeldBy choice.fields value := by
  rw [output.doubles_eq_elim] at finite
  rcases Point.exists_mayWrite finite with ⟨home, homeWellFormed, homeWritten⟩
  refine Json.exists_holds (by decide)
    [ ("units", output.units.toJson),
      ("optimize_order", .bool output.optimizeOrder),
      ("skip_unsupported", .bool output.skipUnsupported),
      ("home", home) ]
    rfl ?_ choice.distinct choice.known
  simp only [List.forall_mem_cons, List.not_mem_nil, false_implies,
    implies_true, and_true]
  refine ⟨⟨Value.wellFormed_string _, ?_⟩, ⟨Value.wellFormed_bool _, ?_⟩,
    ⟨Value.wellFormed_bool _, ?_⟩, homeWellFormed, ?_⟩
  all_goals constructor <;> simp_all

/-- Whichever of their fields are selected, settings with finite doubles can be
written. -/
theorem Settings.exists_heldBy
    {settings : Settings}
    (finite : ∀ double ∈ settings.doubles, double.isFinite = true)
    (selection : Selection) :
    ∃ document : Value, document.WellFormed ∧
      settings.HeldBy selection document := by
  obtain ⟨machineFinite, outputFinite⟩ := List.forall_mem_append.mp finite
  rcases MachineSettings.exists_heldBy machineFinite selection.machine with
    ⟨machine, machineWellFormed, machineHeld⟩
  rcases OutputSettings.exists_heldBy outputFinite selection.output with
    ⟨output, outputWellFormed, outputHeld⟩
  refine Json.exists_holds (by decide)
    [("machine", machine), ("output", output)] rfl ?_
    selection.sections.distinct selection.sections.known
  simp only [List.forall_mem_cons, List.not_mem_nil, false_implies,
    implies_true, and_true]
  exact ⟨⟨machineWellFormed, fun _ => machineHeld, by simp⟩,
    outputWellFormed, by simp, fun _ => outputHeld⟩

/-! ## Partial documents -/

/--
Whichever fields of settings with finite doubles are selected, there are
documents that hold exactly these.  Every text of such a document is read as
the settings with the selected fields and with the defaults for all others, if
scaling finds the doubles of the settings where they are written.  A section
that is an array with its first fields is read as the object with these fields,
and a document that repeats a known key is refused.
-/
theorem partial_documents_read :
    (∀ (settings : Settings) (selection : Selection),
      (∀ double ∈ settings.doubles, double.isFinite = true) →
        ∃ (document : Value) (text : String),
          settings.HeldBy selection document ∧
            Json.IsTextOf text document) ∧
    (∀ (settings : Settings) (selection : Selection) (document : Value)
        (text : String),
      settings.HeldBy selection document →
        Json.ScalesTo document settings.doubles →
          Json.IsTextOf text document →
            SettingsFormat.json.parse text =
              .ok (settings.choose selection)) ∧
    (∀ elements : List Value,
      elements.length ≤ MachineSettings.fieldNames.length →
        MachineSettings.ofJson? (.array elements) =
          MachineSettings.ofJson?
            (.record (MachineSettings.fieldNames.zip elements))) ∧
    (∀ elements : List Value,
      elements.length ≤ OutputSettings.fieldNames.length →
        OutputSettings.ofJson? (.array elements) =
          OutputSettings.ofJson?
            (.record (OutputSettings.fieldNames.zip elements))) ∧
    ∀ (document : Value) (text : String),
      Settings.RepeatsKey document →
        Json.IsTextOf text document →
          SettingsFormat.json.parse text = .error .json := by
  refine ⟨?written, ?read, ?machine, ?output, ?repeated⟩
  case written =>
    intro settings selection finite
    rcases Settings.exists_heldBy finite selection with
      ⟨document, wellFormed, held⟩
    exact ⟨document, document.compactText, held,
      Json.isTextOf_compactText wellFormed⟩
  case read =>
    intro settings selection document text held scales spelled
    rw [SettingsFormat.parse, spelled.read?_eq, Option.bind_some,
      held.ofJson?_eq scales]
  case machine =>
    intro elements short
    rw [MachineSettings.ofJson?, MachineSettings.ofJson?,
      Json.recordFields?_array (by decide) short]
  case output =>
    intro elements short
    rw [OutputSettings.ofJson?, OutputSettings.ofJson?,
      Json.recordFields?_array (by decide) short]
  case repeated =>
    intro document text repeated spelled
    rw [SettingsFormat.parse, spelled.read?_eq, Option.bind_some,
      repeated.ofJson?_eq_none]

/-- Settings all of whose values differ from the defaults. -/
def dockSettings : Settings where
  machine :=
    { feed := 900.0
      spindleOn := "M3 S1000"
      spindleOff := "M9"
      startDelay := 250
      stopDelay := 100 }
  output :=
    { units := .imperial
      optimizeOrder := true
      skipUnsupported := true
      home := some ⟨2.5, 4.0⟩ }

/-- Two fields of each section. -/
def dockSelection : Selection where
  sections := { fields := ["output", "machine"] }
  machine := { fields := ["xy_feedrate", "spindle_on"] }
  output := { fields := ["home", "optimize_order"] }

example :
    dockSettings.choose dockSelection =
      { machine := { feed := 900.0, spindleOn := "M3 S1000" }
        output := { optimizeOrder := true, home := some ⟨2.5, 4.0⟩ } } :=
  rfl

/-- A home position with a member that nobody knows. -/
def dockHome : Value :=
  .record
    [ ("y", .natural 4),
      ("label", .string "dock"),
      ("x", .float 2.5) ]

/-- Two output settings and a member whose key is almost one of theirs. -/
def dockOutput : Value :=
  .record
    [ ("home", dockHome),
      ("Home", .natural 1),
      ("optimize_order", .bool true) ]

/-- The first two settings of the machine. -/
def dockMachine : Value := .array [.natural 900, .string "M3 S1000"]

/-- A document with the sections in another order than the declared one, and
with further members around them. -/
def dockDocument : Value :=
  .record
    [ ("comment", .array [.null, .bool true, .string "x"]),
      ("output", dockOutput),
      ("machine", dockMachine),
      ("comment", .record [("machine", .null)]) ]

theorem wellFormed_dockDocument : dockDocument.WellFormed := by
  have home : dockHome.WellFormed := Value.wellFormed_record (by
    simp [Value.wellFormed_natural, Value.wellFormed_string,
      Value.wellFormed_float])
  have output : dockOutput.WellFormed := Value.wellFormed_record (by
    simp [home, Value.wellFormed_natural, Value.wellFormed_bool])
  have machine : dockMachine.WellFormed := Value.wellFormed_array (by
    simp [Value.wellFormed_natural, Value.wellFormed_string])
  have first : (Value.array [.null, .bool true, .string "x"]).WellFormed :=
    Value.wellFormed_array (by
      simp [Value.wellFormed_null, Value.wellFormed_bool,
        Value.wellFormed_string])
  have last : (Value.record [("machine", .null)]).WellFormed :=
    Value.wellFormed_record (by simp [Value.wellFormed_null])
  exact Value.wellFormed_record (by simp [output, machine, first, last])

theorem heldBy_dockHome : Point.HeldBy ⟨2.5, 4.0⟩ dockHome := by
  refine .object (by decide) (by decide) ?_
  simp only [List.forall_mem_cons, List.not_mem_nil, false_implies,
    implies_true, and_true]
  refine ⟨fun _ => ⟨by simp, fun _ => ⟨_, rfl, by decide +kernel⟩⟩, by simp,
    fun _ => ⟨fun _ => ⟨_, rfl, by decide +kernel⟩, by simp⟩⟩

theorem heldBy_dockOutput :
    dockSettings.output.HeldBy dockSelection.output.fields dockOutput := by
  refine .object (by decide) (by decide) ?_
  simp only [List.forall_mem_cons, List.not_mem_nil, false_implies,
    implies_true, and_true]
  refine ⟨fun _ => ?_, fun known => absurd known (by decide), fun _ => ?_⟩
  · exact ⟨by simp, by simp, by simp, fun _ => .some heldBy_dockHome⟩
  · exact ⟨by simp, fun _ => rfl, by simp, by simp⟩

theorem heldBy_dockMachine :
    dockSettings.machine.HeldBy dockSelection.machine.fields dockMachine := by
  refine .array (by decide) (.cons ?_ (.cons ?_ .nil))
  · exact ⟨fun _ => ⟨_, rfl, by decide +kernel⟩, by simp, by simp, by simp,
      by simp⟩
  · exact ⟨by simp, fun _ => rfl, by simp, by simp, by simp⟩

theorem heldBy_dockDocument :
    dockSettings.HeldBy dockSelection dockDocument := by
  refine .object (by decide) (by decide) ?_
  simp only [List.forall_mem_cons, List.not_mem_nil, false_implies,
    implies_true, and_true]
  exact ⟨fun known => absurd known (by decide),
    fun _ => ⟨by simp, fun _ => heldBy_dockOutput⟩,
    fun _ => ⟨fun _ => heldBy_dockMachine, by simp⟩,
    fun known => absurd known (by decide)⟩

theorem scalesTo_dockDocument :
    Json.ScalesTo dockDocument dockSettings.doubles := by
  rw [Json.ScalesTo]
  decide +kernel

theorem sample_partial_documents :
    (∃ (document : Value) (text : String),
      dockSettings.HeldBy dockSelection document ∧
        Json.IsTextOf text document) ∧
    SettingsFormat.json.parse dockDocument.indentedText =
      .ok (dockSettings.choose dockSelection) ∧
    MachineSettings.ofJson? dockMachine =
      MachineSettings.ofJson?
        (.record
          [ ("xy_feedrate", .natural 900),
            ("spindle_on", .string "M3 S1000") ]) ∧
    OutputSettings.ofJson? (.array [.string "imperial"]) =
      OutputSettings.ofJson? (.record [("units", .string "imperial")]) ∧
    SettingsFormat.json.parse
        (Value.record [("machine", .null), ("machine", .null)]).compactText =
      .error .json := by
  obtain ⟨written, read, machine, output, repeated⟩ := partial_documents_read
  have twice : Settings.RepeatsKey
      (Value.record [("machine", .null), ("machine", .null)]) :=
    .sections (by decide) ⟨.null, .null, List.Sublist.refl _⟩
  refine ⟨written dockSettings dockSelection (by decide +kernel),
    read dockSettings dockSelection dockDocument _ heldBy_dockDocument
      scalesTo_dockDocument
      (Json.isTextOf_indentedText wellFormed_dockDocument),
    machine [.natural 900, .string "M3 S1000"] (by decide),
    output [.string "imperial"] (by decide),
    repeated _ _ twice (Json.isTextOf_compactText ?_)⟩
  exact Value.wellFormed_record (by simp [Value.wellFormed_null])

end Toolpath
