import Toolpath.Entity.Basic

/-!
# Labels of entities

A label describes an entity in comments and messages, with all numbers at two
decimal places.
-/

namespace Toolpath

open Number (fixedText)

/-- Describes a line by its ends. -/
def Line.label (line : Line) : String :=
  "Line from " ++ line.start.text ++ " to " ++ line.finish.text

/-- Describes a circle by its center and radius. -/
def Circle.label (circle : Circle) : String :=
  "Circle at [" ++ fixedText circle.center.x ++ ","
    ++ fixedText circle.center.y ++ "], radius " ++ fixedText circle.radius

/-- Describes an arc by its circle and its angles. -/
def Arc.label (arc : Arc) : String :=
  "Arc at " ++ arc.center.text ++ ", radius " ++ fixedText arc.radius
    ++ ", from " ++ fixedText arc.startAngle
    ++ " to " ++ fixedText arc.endAngle

/-- Describes an ellipse by its axes and its parameters. -/
def Ellipse.label (ellipse : Ellipse) : String :=
  "Ellipse at " ++ ellipse.center.text ++ ", major " ++ ellipse.major.text
    ++ ", minor/major " ++ fixedText ellipse.minorToMajor
    ++ " start " ++ fixedText ellipse.startParameter
    ++ " end " ++ fixedText ellipse.endParameter

/-- Describes a polyline by the number of its chains. -/
def PolyLine.label (polyline : PolyLine) : String :=
  "Polyline consisting of " ++ toString polyline.chains.length
    ++ " segments."

/-- The description of an entity in comments and messages. -/
def Entity.label : Entity → String
  | .line shape => shape.label
  | .circle shape => shape.label
  | .arc shape => shape.label
  | .ellipse shape => shape.label
  | .polyline shape => shape.label

end Toolpath
