import Toolpath.Point
import Toolpath.Units

/-!
# Settings

Settings say what the machine is told to switch its tool and how a program is
laid out.  Every value has a default.
-/

namespace Toolpath

/-- The machine's words, feed and delays. -/
structure MachineSettings where
  /-- The feed of cutting moves. -/
  feed : Float := 1000.0
  /-- The line that engages the tool. -/
  spindleOn : String := "M3"
  /-- The line that lifts the tool. -/
  spindleOff : String := "M5"
  /-- Milliseconds to wait after engaging the tool. -/
  startDelay : UInt32 := 0
  /-- Milliseconds to wait after lifting the tool. -/
  stopDelay : UInt32 := 0

/-- The choices about a whole program. -/
structure OutputSettings where
  units : MeasurementSystem := .metric
  /-- Whether entities are reordered to shorten the way between them. -/
  optimizeOrder : Bool := false
  /-- Whether entities that cannot be cut are left out. -/
  skipUnsupported : Bool := false
  /-- Where the tool goes when the program has ended. -/
  home : Option Point := none

structure Settings where
  machine : MachineSettings := {}
  output : OutputSettings := {}

end Toolpath
