import Toolpath.Motion.Call

/-!
# Lines of a program

A line is kept with what it does until it is written out.
-/

namespace Toolpath

open Number (fixedText)

inductive ProgramLine where
  /-- A remark in parentheses. -/
  | comment (text : String)
  /-- An empty line. -/
  | blank
  /-- Any other line of code. -/
  | code (text : String)
  /-- A move with the tool lifted. -/
  | rapid (target : Point)
  /-- A straight cut. -/
  | cut (target : Point) (feed : Float)
  /-- An arc cut counter-clockwise. -/
  | arc (target offset : Point) (feed : Float)
  /-- A full circle cut counter-clockwise. -/
  | circle (radius feed : Float)
  /-- The word that engages the tool. -/
  | spindleOn (word : String)
  /-- The word that lifts the tool. -/
  | spindleOff (word : String)
  /-- A wait. -/
  | dwell (milliseconds : UInt32)

/-- A remark as it is written. -/
def commentText (text : String) : String := "(" ++ text ++ ")"

def arcText
    (target offset : Point)
    (feed : Float) :
    String :=
  "G3 X" ++ fixedText target.x ++ " Y" ++ fixedText target.y
    ++ " I" ++ fixedText offset.x ++ " J" ++ fixedText offset.y
    ++ " F" ++ fixedText feed

def circleText (radius feed : Float) : String :=
  "G3 I" ++ fixedText radius ++ " J0 F" ++ fixedText feed

/-- A line as it is written, without its line break. -/
def ProgramLine.text : ProgramLine → String
  | comment text => commentText text
  | blank => ""
  | code text => text
  | rapid target =>
    "G0 X" ++ fixedText target.x ++ " Y" ++ fixedText target.y
  | cut target feed =>
    "G1 X" ++ fixedText target.x ++ " Y" ++ fixedText target.y
      ++ " F" ++ fixedText feed
  | arc target offset feed => arcText target offset feed
  | circle radius feed => circleText radius feed
  | spindleOn word => word
  | spindleOff word => word
  | dwell milliseconds => "G4 P" ++ toString milliseconds.toNat

end Toolpath
