import Toolpath.Settings.Basic
import Toolpath.Toml.Printer
import Toolpath.Toml.Reader
import Toolpath.Toml.Record

/-!
# Settings in TOML

How settings are written as a TOML document, and how they are read from one.
A field that is missing has its default.
-/

namespace Toolpath

open Toml (Value)

def MeasurementSystem.ofToml? (value : Value) : Option MeasurementSystem :=
  (Toml.word? value).bind MeasurementSystem.ofKeyword?

/-- Reads a point, which needs both coordinates. -/
def Point.ofToml? (value : Value) : Option Point := do
  match ← Toml.recordFields? ["x", "y"] value with
  | [x, y] =>
    return {
      x := ← Toml.requiredField? Toml.asFloat? x
      y := ← Toml.requiredField? Toml.asFloat? y }
  | _ => none

/-- Reads a number of milliseconds. -/
def delayOfToml? : Value → Option UInt32
  | .integer value =>
    if 0 ≤ value ∧ value < UInt32.size then some (UInt32.ofNat value.toNat)
    else none
  | _ => none

def MachineSettings.ofToml? (value : Value) : Option MachineSettings := do
  let standard : MachineSettings := {}
  match ← Toml.recordFields?
      ["xy_feedrate", "spindle_on", "spindle_off", "start_delay_ms",
        "stop_delay_ms"] value with
  | [feed, spindleOn, spindleOff, startDelay, stopDelay] =>
    return {
      feed := ← Toml.optionalField? Toml.asFloat? standard.feed feed
      spindleOn :=
        ← Toml.optionalField? Toml.asString? standard.spindleOn spindleOn
      spindleOff :=
        ← Toml.optionalField? Toml.asString? standard.spindleOff spindleOff
      startDelay :=
        ← Toml.optionalField? delayOfToml? standard.startDelay startDelay
      stopDelay :=
        ← Toml.optionalField? delayOfToml? standard.stopDelay stopDelay }
  | _ => none

def OutputSettings.ofToml? (value : Value) : Option OutputSettings := do
  let standard : OutputSettings := {}
  match ← Toml.recordFields?
      ["units", "optimize_order", "skip_unsupported", "home"] value with
  | [units, optimizeOrder, skipUnsupported, home] =>
    return {
      units :=
        ← Toml.optionalField? MeasurementSystem.ofToml? standard.units units
      optimizeOrder :=
        ← Toml.optionalField? Toml.asBool? standard.optimizeOrder
          optimizeOrder
      skipUnsupported :=
        ← Toml.optionalField? Toml.asBool? standard.skipUnsupported
          skipUnsupported
      home :=
        ← Toml.optionalField? (fun value => (Point.ofToml? value).map some)
          standard.home home }
  | _ => none

def Settings.ofToml? (value : Value) : Option Settings := do
  match ← Toml.recordFields? ["machine", "output"] value with
  | [machine, output] =>
    return {
      machine := ← Toml.optionalField? MachineSettings.ofToml? {} machine
      output := ← Toml.optionalField? OutputSettings.ofToml? {} output }
  | _ => none

/-- The table of the machine's settings. -/
def MachineSettings.toTable (machine : MachineSettings) : Toml.Table where
  path := ["machine"]
  entries :=
    [ ("xy_feedrate", .float machine.feed),
      ("spindle_on", .string machine.spindleOn),
      ("spindle_off", .string machine.spindleOff),
      ("start_delay_ms", .natural machine.startDelay.toNat),
      ("stop_delay_ms", .natural machine.stopDelay.toNat) ]

/-- The table of the output settings, but for the home position. -/
def OutputSettings.toTable (output : OutputSettings) : Toml.Table where
  path := ["output"]
  entries :=
    [ ("units", .string output.units.keyword),
      ("optimize_order", .bool output.optimizeOrder),
      ("skip_unsupported", .bool output.skipUnsupported) ]

/-- The table of a home position, within the output settings. -/
def Point.toHomeTable (home : Point) : Toml.Table where
  path := ["output", "home"]
  entries := [("x", .float home.x), ("y", .float home.y)]

/-- The tables of a document; without a home there is no table for it. -/
def Settings.toTables (settings : Settings) : List Toml.Table :=
  [settings.machine.toTable, settings.output.toTable]
    ++ (match settings.output.home with
      | some home => [home.toHomeTable]
      | none => [])

def Settings.tomlText (settings : Settings) : String :=
  String.ofList (Toml.documentCharacters settings.toTables)

end Toolpath
