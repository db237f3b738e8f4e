import Toolpath.Proofs.JsonPrinting
import Toolpath.Proofs.StoredSettings

/-!
# Settings in JSON are read back

A record is written with its fields by name and read by looking for the names.
This module proves that points, both sections of the settings and the settings
as a whole are read from what is written for them, and that settings that are
saved as JSON are loaded as they are.

A number of JSON is evaluated by scaling, which rounds more than once, so that
not every double is read back from its shortest numeral.  The statements are
about the values whose doubles are.
-/

namespace Toolpath

open Json (Value)

namespace Json

/-! ## Records -/

theorem membersNamed_cons
    (name key : String)
    (value : Value)
    (members : List (Option String × Value)) :
    membersNamed name ((some key, value) :: members) =
      if key = name then value :: membersNamed name members
      else membersNamed name members := by
  by_cases same : key = name
  · simp [membersNamed, same]
  · simp [membersNamed, same]

theorem membersNamed_of_notMem
    {name : String}
    {members : List (String × Value)}
    (absent : name ∉ members.map Prod.fst) :
    membersNamed name
      (members.map fun (key, value) => (some key, value)) = [] := by
  induction members with
  | nil => rfl
  | cons member members hypothesis =>
      rw [List.map_cons, List.mem_cons, not_or] at absent
      rw [List.map_cons, membersNamed_cons, if_neg (Ne.symm absent.1),
        hypothesis absent.2]

/-- A field that has been written is found by its name. -/
theorem field?_record
    (name : String)
    {members : List (String × Value)}
    (distinct : (members.map Prod.fst).Nodup) :
    field? (members.map fun (key, value) => (some key, value)) name =
      some ((members.find? fun member => member.1 == name).map Prod.snd) := by
  rw [field?]
  induction members with
  | nil => rfl
  | cons member members hypothesis =>
      obtain ⟨key, value⟩ := member
      rw [List.map_cons, List.nodup_cons] at distinct
      rw [List.map_cons, membersNamed_cons]
      by_cases same : key = name
      · have absent : name ∉ members.map Prod.fst := same ▸ distinct.1
        rw [if_pos same, membersNamed_of_notMem absent]
        simp [same]
      · rw [if_neg same, hypothesis distinct.2]
        simp [same]

/-- The fields of a record that has been written are found by their names. -/
theorem recordFields?_record
    (names : List String)
    {members : List (String × Value)}
    (distinct : (members.map Prod.fst).Nodup) :
    recordFields? names (Value.record members) =
      some (names.map fun name =>
        (members.find? fun member => member.1 == name).map Prod.snd) := by
  have fields : field? (members.map fun (key, value) => (some key, value)) =
      fun name => pure
        ((members.find? fun member => member.1 == name).map Prod.snd) :=
    funext fun name => field?_record name distinct
  rw [Value.record, recordFields?, objectFields?, if_pos (by simp), fields,
    List.mapM_pure]
  rfl

/-! ## What is read back -/

/-- Whether a double is read back from the number that JSON has for it. -/
def KeepsDouble (value : Float) : Prop :=
  (read? (Value.float value).compactText).bind Value.asFloat? = some value

/-- Scaling misses this double by its last place. -/
example : ¬ KeepsDouble 96.31351939666081 := by
  rw [KeepsDouble]
  decide +kernel

theorem KeepsDouble.asFloat?_float
    {value : Float}
    (keeps : KeepsDouble value) :
    (Value.float value).asFloat? = some value := by
  rwa [KeepsDouble, read?_compactText (Value.wellFormed_float value)] at keeps

/-- Whether content is read back from what is written for it, compactly or
indented, and is written as the same text once more. -/
structure ReadsBack
    {Content : Type}
    (write : Content → Value)
    (read : Value → Option Content)
    (content : Content) : Prop where
  compact : (read? (write content).compactText).bind read = some content
  indented : (read? (write content).indentedText).bind read = some content
  again :
    ((read? (write content).compactText).bind read).map
        (fun content => (write content).compactText) =
      some (write content).compactText

/-- It is enough that content is read from the value that is written for it. -/
theorem ReadsBack.of_read
    {Content : Type}
    {write : Content → Value}
    {read : Value → Option Content}
    {content : Content}
    (wellFormed : (write content).WellFormed)
    (reads : read (write content) = some content) :
    ReadsBack write read content := by
  have compact : (read? (write content).compactText).bind read =
      some content := by
    rw [read?_compactText wellFormed, Option.bind_some, reads]
  refine ⟨compact, ?_, by rw [compact, Option.map_some]⟩
  rw [read?_indentedText wellFormed, Option.bind_some, reads]

end Json

/-! ## Points and settings -/

namespace Point

/-- The doubles that a point holds. -/
def doubles (point : Point) : List Float := [point.x, point.y]

theorem wellFormed_toJson (point : Point) : point.toJson.WellFormed :=
  Value.wellFormed_record (by simp [Value.wellFormed_float])

theorem ofJson?_toJson
    {point : Point}
    (keeps : ∀ value ∈ point.doubles, Json.KeepsDouble value) :
    ofJson? point.toJson = some point := by
  have x := (keeps point.x (by simp [doubles])).asFloat?_float
  have y := (keeps point.y (by simp [doubles])).asFloat?_float
  rw [ofJson?, toJson, Json.recordFields?_record _ (by simp)]
  simp [Json.requiredField?, x, y]

end Point

theorem MeasurementSystem.ofJson?_toJson (system : MeasurementSystem) :
    ofJson? system.toJson = some system := by
  cases system with
  | metric => rfl
  | imperial => rfl

theorem delayOfJson?_natural (delay : UInt32) :
    delayOfJson? (Value.natural delay.toNat) = some delay := by
  simp [delayOfJson?, Value.natural, Value.asNat?, delay.toNat_lt]

namespace MachineSettings

/-- The doubles that the machine's settings hold. -/
def doubles (machine : MachineSettings) : List Float := [machine.feed]

theorem wellFormed_toJson (machine : MachineSettings) :
    machine.toJson.WellFormed :=
  Value.wellFormed_record (by
    simp [Value.wellFormed_float, Value.wellFormed_string,
      Value.wellFormed_natural])

theorem ofJson?_toJson
    {machine : MachineSettings}
    (keeps : ∀ value ∈ machine.doubles, Json.KeepsDouble value) :
    ofJson? machine.toJson = some machine := by
  have feed := (keeps machine.feed (by simp [doubles])).asFloat?_float
  rw [ofJson?, toJson, Json.recordFields?_record _ (by simp)]
  simp [fieldNames, Json.optionalField?, feed, delayOfJson?_natural,
    Value.string, Value.asString?]

end MachineSettings

namespace OutputSettings

/-- The doubles that the output settings hold. -/
def doubles (output : OutputSettings) : List Float :=
  match output.home with
  | some home => home.doubles
  | none => []

theorem wellFormed_toJson (output : OutputSettings) :
    output.toJson.WellFormed := by
  apply Value.wellFormed_record
  cases output.home with
  | some home =>
      simp [Value.wellFormed_bool, Value.wellFormed_string,
        MeasurementSystem.toJson, home.wellFormed_toJson]
  | none =>
      simp [Value.wellFormed_bool, Value.wellFormed_string,
        MeasurementSystem.toJson]

theorem ofJson?_toJson
    {output : OutputSettings}
    (keeps : ∀ value ∈ output.doubles, Json.KeepsDouble value) :
    ofJson? output.toJson = some output := by
  obtain ⟨units, optimizeOrder, skipUnsupported, home⟩ := output
  cases home with
  | none =>
      rw [ofJson?, toJson, Json.recordFields?_record _ (by simp)]
      simp [fieldNames, Json.optionalField?, Value.asBool?,
        MeasurementSystem.ofJson?_toJson]
  | some home =>
      have position := Point.ofJson?_toJson keeps
      have nullable :
          Point.ofNullableJson? home.toJson = some (some home) := by
        rw [Point.ofNullableJson?.eq_2, position]
        · rfl
        · simp [Point.toJson, Value.record]
      rw [ofJson?, toJson, Json.recordFields?_record _ (by simp)]
      simp [fieldNames, Json.optionalField?, Value.asBool?,
        MeasurementSystem.ofJson?_toJson, nullable]

end OutputSettings

namespace Settings

/-- The doubles that settings hold. -/
def doubles (settings : Settings) : List Float :=
  settings.machine.doubles ++ settings.output.doubles

theorem wellFormed_toJson (settings : Settings) :
    settings.toJson.WellFormed :=
  Value.wellFormed_record (by
    simp [settings.machine.wellFormed_toJson,
      settings.output.wellFormed_toJson])

theorem ofJson?_toJson
    {settings : Settings}
    (keeps : ∀ value ∈ settings.doubles, Json.KeepsDouble value) :
    ofJson? settings.toJson = some settings := by
  obtain ⟨keepsMachine, keepsOutput⟩ := List.forall_mem_append.mp keeps
  rw [ofJson?, toJson, Json.recordFields?_record _ (by simp)]
  simp [sectionNames, Json.optionalField?,
    MachineSettings.ofJson?_toJson keepsMachine,
    OutputSettings.ofJson?_toJson keepsOutput]

theorem parse_print_json
    {settings : Settings}
    (keeps : ∀ value ∈ settings.doubles, Json.KeepsDouble value) :
    SettingsFormat.json.parse (SettingsFormat.json.print settings) =
      .ok settings := by
  have reads := (Json.ReadsBack.of_read settings.wellFormed_toJson
    (ofJson?_toJson keeps)).indented
  simp only [SettingsFormat.parse, SettingsFormat.print, reads]

end Settings

/-! ## The round trip -/

/--
Points, both sections of the settings and whole settings are read back from
their JSON texts and written as the same texts again, if their doubles are read
back.  Valid settings are kept under every path with the extension of JSON that
leads to a name that can be written.
-/
theorem json_round_trip :
    (∀ point : Point,
      (∀ value ∈ point.doubles, Json.KeepsDouble value) →
        Json.ReadsBack Point.toJson Point.ofJson? point) ∧
    (∀ machine : MachineSettings,
      (∀ value ∈ machine.doubles, Json.KeepsDouble value) →
        Json.ReadsBack MachineSettings.toJson MachineSettings.ofJson?
          machine) ∧
    (∀ output : OutputSettings,
      (∀ value ∈ output.doubles, Json.KeepsDouble value) →
        Json.ReadsBack OutputSettings.toJson OutputSettings.ofJson? output) ∧
    ∀ settings : Settings,
      (∀ value ∈ settings.doubles, Json.KeepsDouble value) →
        Json.ReadsBack Settings.toJson Settings.ofJson? settings ∧
          (settings.fault? = none →
            ∀ (directory : Directory) (path name : String),
              extension? path = some "json" →
                directory.nameToWrite path = .ok name →
                  directory.Keeps path settings) := by
  refine ⟨?point, ?machine, ?output, ?settings⟩
  case point =>
    intro point keeps
    exact .of_read point.wellFormed_toJson (Point.ofJson?_toJson keeps)
  case machine =>
    intro machine keeps
    exact .of_read machine.wellFormed_toJson
      (MachineSettings.ofJson?_toJson keeps)
  case output =>
    intro output keeps
    exact .of_read output.wellFormed_toJson
      (OutputSettings.ofJson?_toJson keeps)
  case settings =>
    intro settings keeps
    refine ⟨.of_read settings.wellFormed_toJson
      (Settings.ofJson?_toJson keeps), ?_⟩
    intro faultless directory path name extension named
    exact Directory.keeps_of_parse_print named
      (SettingsFormat.json.ofPath_of_extension extension) faultless
      (Settings.parse_print_json keeps)

/-- Settings whose words hold quotation marks, backslashes and control
characters. -/
def escapedSettings : Settings where
  machine :=
    { feed := 1500.5
      spindleOn := "M3 \"S\\T\"\n\x07"
      spindleOff := "M5\t\x7f\u2028"
      startDelay := 4294967295
      stopDelay := 1 }
  output :=
    { units := .imperial
      optimizeOrder := true
      skipUnsupported := false
      home := some ⟨-0.0, 12.25⟩ }

theorem keepsDouble_of_mem_escapedSettings :
    ∀ value ∈ escapedSettings.doubles, Json.KeepsDouble value := by
  simp only [Json.KeepsDouble]
  decide +kernel

theorem sample_json_round_trip :
    Json.ReadsBack Settings.toJson Settings.ofJson? escapedSettings ∧
      Directory.empty.Keeps "./shop.json" escapedSettings := by
  have kept :=
    json_round_trip.2.2.2 escapedSettings keepsDouble_of_mem_escapedSettings
  exact ⟨kept.1, kept.2 (by decide +kernel) Directory.empty "./shop.json"
    "shop.json" (by decide +kernel) (by decide +kernel)⟩

end Toolpath
