import Toolpath.Drawing.File
import Toolpath.Program.Compile

/-!
# Conversion

A drawing file is converted to a program in three stages: its import, the
validation of the settings, and the compilation.
-/

namespace Toolpath

/-- Why a file could not be converted. -/
inductive ConversionError where
  | unreadable (path : String) (cause : ImportError)
  | settings (cause : SettingsError)
  | uncompiled (path : String) (cause : CompileError)

/-- The wording of an error, without its cause. -/
def ConversionError.message : ConversionError → String
  | unreadable path _ => "Failed to import " ++ path
  | settings _ => "Invalid configuration"
  | uncompiled path _ => "Failed to compile " ++ path

/-- Converts a drawing file to a program. -/
def convertFile
    (source : FileSource)
    (path : String)
    (settings : Settings)
    (includeBlocks : Bool) :
    Except ConversionError Program :=
  match ImportReport.load source path includeBlocks with
  | .error cause => .error (.unreadable path cause)
  | .ok report =>
    match ValidSettings.of? settings with
    | .error cause => .error (.settings cause)
    | .ok valid =>
      (valid.compile report.entities).mapError (.uncompiled path)

end Toolpath
