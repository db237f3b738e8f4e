import Toolpath.CommandLine.Arguments
import Toolpath.Conversion
import Toolpath.Settings.Storage

/-!
# Runs of the command line

A run loads the settings, replaces what the arguments name, converts the
drawing, and only then prints the program or writes its file.  A run that
fails prints nothing and leaves every file as it was.
-/

namespace Toolpath

/-- Why a run failed. -/
inductive RunError where
  | settings (path : String) (cause : StorageError)
  | conversion (cause : ConversionError)
  | unwritten (path : String) (cause : FileError)

/-- The wording of an error, without its cause. -/
def RunError.message : RunError → String
  | settings path _ => "Failed to load config " ++ path
  | conversion cause => cause.message
  | unwritten path _ => "Failed to write " ++ path

namespace Invocation

/-- Replaces what the invocation names in the settings. -/
def apply (invocation : Invocation) (settings : Settings) : Settings where
  machine :=
    { settings.machine with
      feed := invocation.feed.getD settings.machine.feed }
  output :=
    { settings.output with
      units := invocation.units.getD settings.output.units
      optimizeOrder :=
        settings.output.optimizeOrder || invocation.optimizeOrder
      skipUnsupported :=
        settings.output.skipUnsupported || invocation.skipUnsupported }

/-- The settings of the invocation's file, or the defaults. -/
def baseSettings?
    (invocation : Invocation)
    (source : FileSource) :
    Except RunError Settings :=
  match invocation.settingsFile with
  | some path => (Settings.load source path).mapError (.settings path)
  | none => .ok {}

def program?
    (invocation : Invocation)
    (source : FileSource) :
    Except RunError Program := do
  let settings ← invocation.baseSettings? source
  (convertFile source invocation.input (invocation.apply settings)
    invocation.includeBlocks).mapError .conversion

end Invocation

/-- Carries out an invocation in a directory: what is printed, and the
directory afterwards. -/
def Directory.carryOut
    (directory : Directory)
    (invocation : Invocation) :
    Except RunError (String × Directory) := do
  let program ← invocation.program? directory.source
  match invocation.output with
  | some path =>
    let directory ←
      (directory.writeText path program.gcode).mapError (.unwritten path)
    return ("", directory)
  | none => return (program.gcode, directory)

/-- What the command line prints about itself. -/
def usageText : String :=
  "Usage: dxf2gcode [OPTIONS] <INPUT>\n"

/-- Why a call of the command line failed. -/
inductive Failure where
  | arguments (cause : ArgumentError)
  | run (cause : RunError)

/-- What a call of the command line comes to. -/
structure Outcome where
  printed : String
  failure : Option Failure
  directory : Directory

/-- The number by which a call reports whether it failed. -/
def Outcome.exitCode (outcome : Outcome) : Nat :=
  match outcome.failure with
  | none => 0
  | some (.run _) => 1
  | some (.arguments _) => 2

def Directory.run
    (directory : Directory)
    (invocation : Invocation) :
    Outcome :=
  match directory.carryOut invocation with
  | .ok (printed, changed) => ⟨printed, none, changed⟩
  | .error cause => ⟨"", some (.run cause), directory⟩

/-- Calls the command line in a directory. -/
def Directory.call
    (directory : Directory)
    (arguments : List String) :
    Outcome :=
  match Request.ofArguments arguments with
  | .error cause => ⟨"", some (.arguments cause), directory⟩
  | .ok .version => ⟨releaseName ++ "\n", none, directory⟩
  | .ok .help => ⟨usageText, none, directory⟩
  | .ok (.run invocation) => directory.run invocation

end Toolpath
