import Toolpath.Json.Record
import Toolpath.Json.Reader
import Toolpath.Json.Printer
import Toolpath.Entity.Error
import Toolpath.Settings.Basic

/-!
# Settings in JSON

How settings and their parts are written as JSON values, and how they are read
from them.  A field that is missing has its default.
-/

namespace Toolpath

open Json (Value)

def EntityKind.toJson (kind : EntityKind) : Value := .string kind.keyword

def EntityKind.ofJson? (value : Value) : Option EntityKind :=
  (Json.word? value).bind EntityKind.ofKeyword?

/-- A measurement system as a word. -/
def MeasurementSystem.toJson (system : MeasurementSystem) : Value :=
  .string system.keyword

def MeasurementSystem.ofJson? (value : Value) : Option MeasurementSystem :=
  (Json.word? value).bind MeasurementSystem.ofKeyword?

/-- A point as a record of its coordinates. -/
def Point.toJson (point : Point) : Value :=
  .record [("x", .float point.x), ("y", .float point.y)]

/-- Reads a point, which needs both coordinates. -/
def Point.ofJson? (value : Value) : Option Point := do
  match ← Json.recordFields? ["x", "y"] value with
  | [x, y] =>
    return {
      x := ← Json.requiredField? Value.asFloat? x
      y := ← Json.requiredField? Value.asFloat? y }
  | _ => none

/-- Reads a point or null, which stands for no point. -/
def Point.ofNullableJson? : Value → Option (Option Point)
  | .null => some none
  | value => (Point.ofJson? value).map some

/-- Reads a number of milliseconds. -/
def delayOfJson? (value : Value) : Option UInt32 := do
  let milliseconds ← value.asNat?
  if milliseconds < UInt32.size then
    return UInt32.ofNat milliseconds
  else none

/-- The machine's settings as a record. -/
def MachineSettings.toJson (machine : MachineSettings) : Value :=
  .record
    [ ("xy_feedrate", .float machine.feed),
      ("spindle_on", .string machine.spindleOn),
      ("spindle_off", .string machine.spindleOff),
      ("start_delay_ms", .natural machine.startDelay.toNat),
      ("stop_delay_ms", .natural machine.stopDelay.toNat) ]

/-- The names of the machine's settings, in their declared order. -/
def MachineSettings.fieldNames : List String :=
  ["xy_feedrate", "spindle_on", "spindle_off", "start_delay_ms",
    "stop_delay_ms"]

def MachineSettings.ofJson? (value : Value) : Option MachineSettings := do
  let standard : MachineSettings := {}
  match ← Json.recordFields? MachineSettings.fieldNames value with
  | [feed, spindleOn, spindleOff, startDelay, stopDelay] =>
    return {
      feed := ← Json.optionalField? Value.asFloat? standard.feed feed
      spindleOn :=
        ← Json.optionalField? Value.asString? standard.spindleOn spindleOn
      spindleOff :=
        ← Json.optionalField? Value.asString? standard.spindleOff spindleOff
      startDelay :=
        ← Json.optionalField? delayOfJson? standard.startDelay startDelay
      stopDelay :=
        ← Json.optionalField? delayOfJson? standard.stopDelay stopDelay }
  | _ => none

/-- The output settings as a record; without a home it has no such field. -/
def OutputSettings.toJson (output : OutputSettings) : Value :=
  .record
    ([ ("units", output.units.toJson),
       ("optimize_order", .bool output.optimizeOrder),
       ("skip_unsupported", .bool output.skipUnsupported) ]
      ++ (match output.home with
        | some home => [("home", home.toJson)]
        | none => []))

/-- The names of the output settings, in their declared order. -/
def OutputSettings.fieldNames : List String :=
  ["units", "optimize_order", "skip_unsupported", "home"]

def OutputSettings.ofJson? (value : Value) : Option OutputSettings := do
  let standard : OutputSettings := {}
  match ← Json.recordFields? OutputSettings.fieldNames value with
  | [units, optimizeOrder, skipUnsupported, home] =>
    return {
      units :=
        ← Json.optionalField? MeasurementSystem.ofJson? standard.units units
      optimizeOrder :=
        ← Json.optionalField? Value.asBool? standard.optimizeOrder
          optimizeOrder
      skipUnsupported :=
        ← Json.optionalField? Value.asBool? standard.skipUnsupported
          skipUnsupported
      home :=
        ← Json.optionalField? Point.ofNullableJson? standard.home home }
  | _ => none

/-- All settings as a record of their two sections. -/
def Settings.toJson (settings : Settings) : Value :=
  .record
    [ ("machine", settings.machine.toJson),
      ("output", settings.output.toJson) ]

def Settings.sectionNames : List String := ["machine", "output"]

def Settings.ofJson? (value : Value) : Option Settings := do
  match ← Json.recordFields? Settings.sectionNames value with
  | [machine, output] =>
    return {
      machine := ← Json.optionalField? MachineSettings.ofJson? {} machine
      output := ← Json.optionalField? OutputSettings.ofJson? {} output }
  | _ => none

end Toolpath
