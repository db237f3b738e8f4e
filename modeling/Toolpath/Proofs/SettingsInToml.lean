import Toolpath.Proofs.StoredSettings
import Toolpath.Proofs.TomlDocuments

/-!
# Settings in TOML are read back

The sections of the settings are written as tables one after the other, and the
home position as a table within the output settings.  This module proves that
the statements of these tables put together the tree that they were written
for, that settings are read from this tree as they are, and that settings that
are saved as TOML are loaded as they are.
-/

namespace Toolpath

open Toml (Value)

/-! ## Sections -/

theorem delayOfToml?_natural (delay : UInt32) :
    delayOfToml? (.integer delay.toNat) = some delay := by
  have small : (delay.toNat : Int) < UInt32.size :=
    Int.ofNat_lt.mpr delay.toNat_lt
  rw [delayOfToml?, if_pos ⟨Int.natCast_nonneg delay.toNat, small⟩]
  simp

namespace MachineSettings

theorem isWritable_toTable
    {machine : MachineSettings}
    (finite : machine.feed.isFinite = true) :
    machine.toTable.IsWritable := by
  constructor
  case path => exact .singleton (by decide)
  case keys => simp +decide [toTable]
  case values =>
    have start := machine.startDelay.toNat_lt
    have stop := machine.stopDelay.toNat_lt
    simp only [toTable, List.forall_mem_cons, Toml.Scalar.Fits, finite,
      List.not_mem_nil]
    refine ⟨trivial, trivial, trivial, ?_, ?_, by simp⟩
    · omega
    · omega

/-- The values of the delays are left open here: evaluating a delay's bound on
an integer would count up to it. -/
theorem ofToml?_of_fields
    {machine : MachineSettings}
    {value start stop : Value}
    (fields :
      Toml.recordFields?
          ["xy_feedrate", "spindle_on", "spindle_off", "start_delay_ms",
            "stop_delay_ms"] value =
        some
          [ some (.float machine.feed), some (.string machine.spindleOn),
            some (.string machine.spindleOff), some start, some stop ])
    (readsStart : delayOfToml? start = some machine.startDelay)
    (readsStop : delayOfToml? stop = some machine.stopDelay) :
    ofToml? value = some machine := by
  rw [ofToml?, fields]
  simp [Toml.optionalField?, Toml.asFloat?, Toml.asString?, readsStart,
    readsStop]

theorem ofToml?_toTable (machine : MachineSettings) :
    ofToml? (.table machine.toTable.fields) = some machine :=
  ofToml?_of_fields rfl (delayOfToml?_natural machine.startDelay)
    (delayOfToml?_natural machine.stopDelay)

end MachineSettings

theorem Point.isWritable_toHomeTable
    {home : Point}
    (finite : home.isFinite = true) :
    home.toHomeTable.IsWritable := by
  obtain ⟨x, y⟩ : home.x.isFinite = true ∧ home.y.isFinite = true := by
    simpa [isFinite] using finite
  constructor
  case path =>
    exact (⟨by decide, by decide, by decide⟩ :
      Toml.IsBarePath ["output", "home"])
  case keys => simp +decide [toHomeTable]
  case values => simp [toHomeTable, Toml.Scalar.Fits, x, y]

theorem Point.ofToml?_toHomeTable (home : Point) :
    ofToml? (.table home.toHomeTable.fields) = some home := by
  simp [ofToml?, toHomeTable, Toml.Table.fields, Toml.Scalar.value,
    Toml.recordFields?, Toml.requiredField?, Toml.asFloat?]

theorem MeasurementSystem.ofToml?_keyword (system : MeasurementSystem) :
    ofToml? (.string system.keyword) = some system :=
  ofKeyword?_keyword system

namespace OutputSettings

theorem isWritable_toTable (output : OutputSettings) :
    output.toTable.IsWritable := by
  constructor
  case path => exact .singleton (by decide)
  case keys => simp +decide [toTable]
  case values => simp [toTable, Toml.Scalar.Fits]

/-- The entries of the output settings with the table of the home position. -/
def tomlFields (output : OutputSettings) : List (String × Value) :=
  output.toTable.fields
    ++ (match output.home with
      | some home => [("home", .table home.toHomeTable.fields)]
      | none => [])

theorem ofToml?_tomlFields (output : OutputSettings) :
    ofToml? (.table output.tomlFields) = some output := by
  obtain ⟨units, optimizeOrder, skipUnsupported, home⟩ := output
  have fields :
      Toml.recordFields? ["units", "optimize_order", "skip_unsupported", "home"]
          (.table
            (tomlFields ⟨units, optimizeOrder, skipUnsupported, home⟩)) =
        some
          [ some (.string units.keyword), some (.bool optimizeOrder),
            some (.bool skipUnsupported),
            home.map fun home => .table home.toHomeTable.fields ] := by
    cases home with
    | none => rfl
    | some home => rfl
  rw [ofToml?, fields]
  cases home with
  | none =>
      simp [Toml.optionalField?, Toml.asBool?,
        MeasurementSystem.ofToml?_keyword]
  | some home =>
      simp [Toml.optionalField?, Toml.asBool?,
        MeasurementSystem.ofToml?_keyword, home.ofToml?_toHomeTable]

end OutputSettings

/-! ## The document -/

/-- The output settings with the table of the home position, unfinished. -/
def OutputSettings.nodes (output : OutputSettings) : Toml.Entries :=
  output.toTable.nodes
    ++ (match output.home with
      | some home => [("home", .table .header home.toHomeTable.nodes)]
      | none => [])

/-- The tables of both sections, unfinished, where that of the output settings
holds the given entries. -/
def sectionNodes
    (machine : MachineSettings)
    (inner : Toml.Entries) :
    Toml.Entries :=
  [ ("machine", .table .header machine.toTable.nodes),
    ("output", .table .header inner) ]

theorem carryOut_sections
    (machine : MachineSettings)
    (output : OutputSettings)
    (rest : List Toml.Statement) :
    Toml.carryOut [] []
        (machine.toTable.statements ++ (output.toTable.statements ++ rest)) =
      Toml.carryOut ["output"] (sectionNodes machine output.toTable.nodes)
        rest := by
  have distinctMachine : (machine.toTable.entries.map Prod.fst).Nodup := by
    simp [MachineSettings.toTable]
  have distinctOutput : (output.toTable.entries.map Prod.fst).Nodup := by
    simp [OutputSettings.toTable]
  exact
    (Toml.carryOut_table rfl distinctMachine .nil
      (by simp : "machine" ∉ []) [] _).trans
    (Toml.carryOut_table rfl distinctOutput .nil
      (by simp : "output" ∉ ["machine"]) ["machine"] rest)

theorem carryOut_home
    (machine : MachineSettings)
    (output : OutputSettings)
    (home : Point)
    (rest : List Toml.Statement) :
    Toml.carryOut ["output"] (sectionNodes machine output.toTable.nodes)
        (home.toHomeTable.statements ++ rest) =
      Toml.carryOut ["output", "home"]
        (sectionNodes machine
          (output.toTable.nodes
            ++ [("home", .table .header home.toHomeTable.nodes)]))
        rest := by
  have surrounds : Toml.Surrounds ["output"] (sectionNodes machine) :=
    @Toml.Surrounds.singleton "output"
      [("machine", .table .header machine.toTable.nodes)] (by simp) .header
  have distinct : (home.toHomeTable.entries.map Prod.fst).Nodup := by
    simp [Point.toHomeTable]
  have fresh : "home" ∉ output.toTable.nodes.map Prod.fst := by
    simp [OutputSettings.toTable, Toml.Table.nodes]
  exact @Toml.carryOut_table home.toHomeTable ["output"] "home" rfl distinct _
    surrounds _ fresh ["output"] rest

/-- The statements of the settings' tables put these tables together. -/
theorem Settings.carryOut_toTables (settings : Settings) :
    Toml.carryOut [] [] (settings.toTables.flatMap Toml.Table.statements) =
      some (sectionNodes settings.machine settings.output.nodes) := by
  have sections := carryOut_sections settings.machine settings.output
  rw [toTables, OutputSettings.nodes, List.flatMap_append, List.flatMap_cons,
    List.flatMap_singleton, List.append_assoc, sections]
  cases settings.output.home with
  | none =>
      rw [List.append_nil]
      rfl
  | some home =>
      rw [List.flatMap_singleton, ← List.append_nil home.toHomeTable.statements,
        carryOut_home]
      rfl

theorem OutputSettings.finishEntries_nodes (output : OutputSettings) :
    Toml.finishEntries output.nodes = output.tomlFields := by
  rw [nodes, tomlFields, Toml.finishEntries_append, Toml.finishEntries_nodes]
  cases output.home with
  | none => rfl
  | some home =>
      simp only [Toml.finishEntries, Toml.Node.finish,
        Toml.finishEntries_nodes]

namespace Settings

/-- The tree that the settings' document stands for. -/
def tomlValue (settings : Settings) : Value :=
  .table
    [ ("machine", .table settings.machine.toTable.fields),
      ("output", .table settings.output.tomlFields) ]

theorem ofToml?_of_sections
    {settings : Settings}
    {machine output : Value}
    (readsMachine : MachineSettings.ofToml? machine = some settings.machine)
    (readsOutput : OutputSettings.ofToml? output = some settings.output) :
    ofToml? (.table [("machine", machine), ("output", output)]) =
      some settings := by
  simp [ofToml?, Toml.recordFields?, Toml.optionalField?, readsMachine,
    readsOutput]

theorem ofToml?_tomlValue (settings : Settings) :
    ofToml? settings.tomlValue = some settings :=
  ofToml?_of_sections settings.machine.ofToml?_toTable
    settings.output.ofToml?_tomlFields

theorem forall_isWritable_toTables
    {settings : Settings}
    (faultless : settings.fault? = none) :
    ∀ table ∈ settings.toTables, table.IsWritable := by
  obtain ⟨feed, -, -, position⟩ := fault?_eq_none_iff.mp faultless
  rw [isFeed, Bool.and_eq_true] at feed
  have machine := MachineSettings.isWritable_toTable feed.1
  have output := settings.output.isWritable_toTable
  rw [toTables]
  cases present : settings.output.home with
  | none => simp [machine, output]
  | some home =>
      have home := Point.isWritable_toHomeTable (position home present)
      simp [machine, output, home]

/-- The document of valid settings is read as their tree. -/
theorem read?_tomlText
    {settings : Settings}
    (faultless : settings.fault? = none) :
    Toml.read? settings.tomlText = some settings.tomlValue := by
  rw [Toml.read?, tomlText, String.toList_ofList,
    Toml.readCharacters?_documentCharacters
      (forall_isWritable_toTables faultless),
    carryOut_toTables]
  simp only [sectionNodes, tomlValue, Toml.finishEntries, Toml.Node.finish,
    Toml.finishEntries_nodes, OutputSettings.finishEntries_nodes,
    Option.map_some]

theorem parse_print_toml
    {settings : Settings}
    (faultless : settings.fault? = none) :
    SettingsFormat.toml.parse (SettingsFormat.toml.print settings) =
      .ok settings := by
  have reads : (Toml.read? settings.tomlText).bind ofToml? = some settings := by
    rw [read?_tomlText faultless, Option.bind_some, ofToml?_tomlValue]
  simp only [SettingsFormat.parse, SettingsFormat.print, reads]

end Settings

/-! ## The round trip -/

/--
Valid settings are saved under every path with the extension of TOML that leads
to a name that can be written, and are loaded from there as they are.
-/
theorem toml_round_trip
    {settings : Settings}
    (faultless : settings.fault? = none)
    {directory : Directory}
    {path name : String}
    (extension : extension? path = some "toml")
    (named : directory.nameToWrite path = .ok name) :
    directory.Keeps path settings :=
  Directory.keeps_of_parse_print named
    (SettingsFormat.toml.ofPath_of_extension extension) faultless
    (Settings.parse_print_toml faultless)

/-- Settings whose words have several lines, marks of both kinds in threes, and
characters that are written as escapes. -/
def multilineSettings : Settings where
  machine :=
    { feed := 1500.5
      spindleOn := "M3 \"\"\"S\\T\"\"\"\n'''\x07"
      spindleOff := "\nM5 'slow'\r\n\t\x7f\u2028"
      startDelay := 4294967295
      stopDelay := 1 }
  output :=
    { units := .imperial
      optimizeOrder := true
      skipUnsupported := false
      home := some ⟨-0.0, 96.31351939666081⟩ }

theorem sample_toml_round_trip :
    multilineSettings.fault? = none ∧
      Directory.empty.Keeps "./shop.toml" multilineSettings := by
  have faultless : multilineSettings.fault? = none := by decide +kernel
  exact ⟨faultless,
    @toml_round_trip multilineSettings faultless Directory.empty "./shop.toml"
      "shop.toml" (by decide +kernel) (by decide +kernel)⟩

end Toolpath
