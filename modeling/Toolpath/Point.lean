import Toolpath.Number.Fixed

/-!
# Points of the drawing plane

Coordinates are doubles, and all arithmetic on them is carried out in the
order in which it is written.
-/

namespace Toolpath

/-- A position in the plane of the drawing. -/
structure Point where
  x : Float
  y : Float

namespace Point

/-- Points are compared by their coordinates: `0.0` equals `-0.0`, and a point
that holds a NaN differs from every point. -/
instance : BEq Point where
  beq first second := first.x == second.x && first.y == second.y

def origin : Point := ⟨0.0, 0.0⟩

/-- Whether both coordinates are finite. -/
def isFinite (point : Point) : Bool := point.x.isFinite && point.y.isFinite

/-- The Euclidean distance between two points, without rescaling. -/
def distanceTo
    (source target : Point) :
    Float :=
  let dx := target.x - source.x
  let dy := target.y - source.y
  Float.sqrt (dx * dx + dy * dy)

/-- Both coordinates with two decimal places, as in `[1.00, 2.50]`. -/
def text (point : Point) : String :=
  "[" ++ Number.fixedText point.x ++ ", " ++ Number.fixedText point.y ++ "]"

end Point

end Toolpath
