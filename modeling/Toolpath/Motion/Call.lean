import Toolpath.Point

/-!
# Calls to a motion program

An entity is cut by a sequence of calls.  They say what happens, and leave to
whoever carries them out which words a machine is told and whether the tool
has to be engaged or lifted first.
-/

namespace Toolpath

/-- One instruction of an entity to whoever carries it out. -/
inductive Call where
  /-- A remark. -/
  | comment (text : String)
  /-- The end of a block. -/
  | separator
  /-- A line of code that is passed on as it is. -/
  | code (text : String)
  /-- A move without cutting. -/
  | go (target : Point)
  /-- A straight cut. -/
  | draw (target : Point)
  /-- A counter-clockwise cut to a point, around a center given by its offset
  from where the cut begins. -/
  | arc (target offset : Point)
  /-- A full circle around a center that lies to the right of where the cut
  begins, at the distance of the radius. -/
  | circle (radius : Float)
  /-- Engages the tool. -/
  | start
  /-- Lifts the tool. -/
  | stop
  /-- Records a position that an arc or circle leads to. -/
  | setPosition (position : Point)

end Toolpath
