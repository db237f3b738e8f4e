import Toolpath.Entity.Basic

/-!
# Drawings

A drawing holds records of entities as a drawing program left them: angles are
in degrees, and nothing has been checked.  Blocks hold further records.
-/

namespace Toolpath

inductive DrawingRecord where
  | line (start finish : Point)
  | circle (center : Point) (radius : Float)
  /-- Angles are in degrees. -/
  | arc (center : Point) (radius startAngle endAngle : Float)
  | ellipse (center major : Point)
      (minorToMajor startParameter endParameter : Float)
  /-- A polyline kept in one record; the lowest bit of the flags closes it. -/
  | lightPolyline (points : List Point) (flags : Int)
  /-- A polyline with a record for every vertex. -/
  | polyline (points : List Point) (flags : Int)
  /-- Any other record. -/
  | other

/-- The records of a drawing and of its blocks. -/
structure Drawing where
  records : List DrawingRecord
  blocks : List (List DrawingRecord)

/-- A full turn in radians. -/
def fullTurn : Float := 6.283185307179586

/-- Half a turn in radians. -/
def halfTurn : Float := 3.141592653589793

namespace DrawingRecord

/-- A line from the origin to the origin. -/
def newLine : DrawingRecord := .line .origin .origin

/-- A circle without extent. -/
def newCircle : DrawingRecord := .circle .origin 0.0

/-- An arc all around a circle without extent. -/
def newArc : DrawingRecord := .arc .origin 0.0 0.0 360.0

/-- A full ellipse with axes of length one. -/
def newEllipse : DrawingRecord :=
  .ellipse .origin ⟨1.0, 0.0⟩ 1.0 0.0 fullTurn

end DrawingRecord

end Toolpath
