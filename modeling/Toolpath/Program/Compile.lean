import Toolpath.Program.Tool
import Toolpath.Settings.Validity
import Toolpath.Tour

/-!
# Compilation

A program is compiled from entities under valid settings: the entities are
put in order, their calls are carried out by one tool that starts out lifted,
and a frame is put around the lines that this gives.
-/

namespace Toolpath

/-- A program, line by line, with what is known about its making. -/
structure Program where
  preamble : List ProgramLine
  body : List ProgramLine
  postscript : List ProgramLine
  /-- How many entities were carried out. -/
  emitted : Nat
  /-- How many entities were left out. -/
  skipped : Nat
  /-- Where the body leaves the tool, if it moves it. -/
  position : Option Point

namespace Program

def lines (program : Program) : List ProgramLine :=
  program.preamble ++ program.body ++ program.postscript

/-- The text of a program: all its lines, each with a line break. -/
def gcode (program : Program) : String :=
  String.join (program.lines.map fun line => line.text ++ "\n")

end Program

/-- Why no program could be compiled. -/
inductive CompileError where
  /-- The entity at this place of the emitted order could not be emitted. -/
  | entity (index : Nat) (label : String) (cause : EntityError)
  | settings (cause : SettingsError)

def CompileError.message : CompileError → String
  | entity index label cause =>
    "Entity #" ++ toString index ++ " (" ++ label ++ ") failed: "
      ++ cause.message
  | settings cause => "Invalid configuration: " ++ cause.message

/-- What carrying out some entities comes to. -/
structure Emission where
  tool : Tool
  lines : List ProgramLine
  emitted : Nat
  skipped : Nat

/-- Whether an error only says that an entity cannot be cut at all. -/
def EntityError.isNotImplemented : EntityError → Bool
  | notImplemented _ _ => true
  | _ => false

/--
Carries out entities one after the other, the first of them having the given
index, and stops at the first that fails and may not be left out.
-/
def emitFrom
    (settings : Settings)
    (tool : Tool)
    (index : Nat) :
    List Entity → Except CompileError Emission
  | [] => .ok { tool, lines := [], emitted := 0, skipped := 0 }
  | entity :: entities =>
    match entity.calls? with
    | .ok calls =>
      match emitFrom settings (tool.afterAll calls) (index + 1) entities with
      | .ok rest =>
        .ok { rest with
          lines := tool.writeAll settings.machine calls ++ rest.lines
          emitted := rest.emitted + 1 }
      | .error cause => .error cause
    | .error cause =>
      if cause.isNotImplemented && settings.output.skipUnsupported then
        match emitFrom settings tool (index + 1) entities with
        | .ok rest => .ok { rest with skipped := rest.skipped + 1 }
        | .error cause => .error cause
      else .error (.entity index entity.label cause)

/-- The release that programs are marked with. -/
def releaseName : String := "dxf2gcode 0.1.0"

def Settings.preamble (settings : Settings) : List ProgramLine :=
  [ .comment ("Generated by " ++ releaseName),
    .code settings.output.units.code,
    .code "G90",
    .blank ]

def Settings.postscript (settings : Settings) : List ProgramLine :=
  [ .blank,
    .comment "end of program",
    .spindleOff settings.machine.spindleOff ]
    ++ (match settings.output.home with
      | some home => [.rapid home]
      | none => [])
    ++ [.code "M2"]

/-- The order in which entities are carried out. -/
def Settings.arrange
    (settings : Settings)
    (entities : List Entity) :
    List Entity :=
  if settings.output.optimizeOrder then
    orderByProximity (settings.output.home.getD Point.origin) entities
  else entities

/-- Compiles entities under valid settings. -/
def ValidSettings.compile
    (valid : ValidSettings)
    (entities : List Entity) :
    Except CompileError Program :=
  let settings := valid.settings
  match emitFrom settings Tool.initial 0 (settings.arrange entities) with
  | .ok emission =>
    .ok
      { preamble := settings.preamble
        body := emission.lines
        postscript := settings.postscript
        emitted := emission.emitted
        skipped := emission.skipped
        position := emission.tool.position }
  | .error cause => .error cause

/-- Compiles entities under settings that still have to be validated. -/
def Settings.compile
    (settings : Settings)
    (entities : List Entity) :
    Except CompileError Program :=
  match ValidSettings.of? settings with
  | .ok valid => valid.compile entities
  | .error fault => .error (.settings fault)

end Toolpath
