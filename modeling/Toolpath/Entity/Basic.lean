import Toolpath.Point
import Toolpath.Entity.Error

/-!
# Entities of a drawing

A drawing consists of lines, circles, arcs, ellipses and polylines.  The types
admit sound shapes only: a radius is positive, coordinates are finite, and a
chain of a polyline joins at least two points.  Lines alone take any
coordinates.  The functions ending in `?` build a shape from raw data or say
what is wrong with it.
-/

namespace Toolpath

/-- Whether a number can be a radius. -/
def isRadius (value : Float) : Bool := value.isFinite && 0.0 < value

/-- Whether a number can be the ratio of an ellipse's axes. -/
def isAxisRatio (value : Float) : Bool := 0.0 < value && value ≤ 1.0

/-- A straight cut. -/
structure Line where
  start : Point
  finish : Point

/-- A full circle. -/
structure Circle where
  center : Point
  radius : Float
  center_finite : center.isFinite = true
  radius_valid : isRadius radius = true

/-- A part of a circle, between two angles in radians. -/
structure Arc where
  center : Point
  radius : Float
  startAngle : Float
  endAngle : Float
  center_finite : center.isFinite = true
  radius_valid : isRadius radius = true
  angles_finite : (startAngle.isFinite && endAngle.isFinite) = true

/-- A part of an ellipse, which can be described but not cut. -/
structure Ellipse where
  center : Point
  /-- The end of the major axis, seen from the center. -/
  major : Point
  minorToMajor : Float
  startParameter : Float
  endParameter : Float
  axis_finite : (center.isFinite && major.isFinite) = true
  ratio_valid : isAxisRatio minorToMajor = true
  parameters_finite :
    (startParameter.isFinite && endParameter.isFinite) = true

/-- Points joined by straight cuts. -/
structure Chain where
  points : List Point
  two_points : 2 ≤ points.length
  points_finite : points.all Point.isFinite = true

/-- Any number of chains under one name. -/
structure PolyLine where
  chains : List Chain

/-- One entity of a drawing. -/
inductive Entity where
  | line (shape : Line)
  | circle (shape : Circle)
  | arc (shape : Arc)
  | ellipse (shape : Ellipse)
  | polyline (shape : PolyLine)

def Entity.kind : Entity → EntityKind
  | .line _ => .line
  | .circle _ => .circle
  | .arc _ => .arc
  | .ellipse _ => .ellipse
  | .polyline _ => .polyline

/-- Whether two entities have the same kind and equal data; a NaN makes a line
differ from every line. -/
def Entity.agrees : Entity → Entity → Bool
  | .line first, .line second =>
    first.start == second.start && first.finish == second.finish
  | .circle first, .circle second =>
    first.center == second.center && first.radius == second.radius
  | .arc first, .arc second =>
    first.center == second.center && first.radius == second.radius
      && first.startAngle == second.startAngle
      && first.endAngle == second.endAngle
  | .ellipse first, .ellipse second =>
    first.center == second.center && first.major == second.major
      && first.minorToMajor == second.minorToMajor
      && first.startParameter == second.startParameter
      && first.endParameter == second.endParameter
  | .polyline first, .polyline second =>
    first.chains.map Chain.points == second.chains.map Chain.points
  | _, _ => false

instance : BEq Entity where
  beq := Entity.agrees

/-- A circle, unless its center or its radius is unsound. -/
def Circle.ofParts?
    (center : Point)
    (radius : Float) :
    Except EntityError Circle :=
  if center_finite : center.isFinite = true then
    if radius_valid : isRadius radius = true then
      .ok { center, radius, center_finite, radius_valid }
    else .error (.flawed (.radius radius))
  else .error (.flawed .circleCenter)

/-- An arc, unless its center, its radius or an angle is unsound. -/
def Arc.ofParts?
    (center : Point)
    (radius startAngle endAngle : Float) :
    Except EntityError Arc :=
  if center_finite : center.isFinite = true then
    if radius_valid : isRadius radius = true then
      if angles_finite :
          (startAngle.isFinite && endAngle.isFinite) = true then
        .ok { center, radius, startAngle, endAngle,
              center_finite, radius_valid, angles_finite }
      else .error (.flawed .arcAngles)
    else .error (.flawed (.radius radius))
  else .error (.flawed .arcCenter)

/-- An ellipse, unless its axes, their ratio or a parameter is unsound. -/
def Ellipse.ofParts?
    (center major : Point)
    (minorToMajor startParameter endParameter : Float) :
    Except EntityError Ellipse :=
  if axis_finite : (center.isFinite && major.isFinite) = true then
    if ratio_valid : isAxisRatio minorToMajor = true then
      if parameters_finite :
          (startParameter.isFinite && endParameter.isFinite) = true then
        .ok { center, major, minorToMajor, startParameter, endParameter,
              axis_finite, ratio_valid, parameters_finite }
      else .error (.flawed .ellipseParameters)
    else .error (.flawed (.ellipseRatio minorToMajor))
  else .error (.flawed .ellipseAxis)

/-- A chain, unless it is too short or holds a point that is not finite. -/
def Chain.ofPoints?
    (index : Nat)
    (points : List Point) :
    Except EntityError Chain :=
  if two_points : 2 ≤ points.length then
    if points_finite : points.all Point.isFinite = true then
      .ok { points, two_points, points_finite }
    else .error (.flawed (.chainPoint index))
  else .error (.flawed (.shortChain index points.length))

/-- Chains from rows of points, the first unsound one blamed by its index. -/
def Chain.ofRows?
    (index : Nat) :
    List (List Point) → Except EntityError (List Chain)
  | [] => .ok []
  | points :: rows => do
    let chain ← Chain.ofPoints? index points
    let chains ← Chain.ofRows? (index + 1) rows
    return chain :: chains

/-- A polyline, unless one of its chains is unsound. -/
def PolyLine.ofRows? (rows : List (List Point)) : Except EntityError PolyLine :=
  return ⟨← Chain.ofRows? 0 rows⟩

def Chain.first (chain : Chain) : Point :=
  chain.points.head (by
    intro empty
    have := chain.two_points
    simp [empty] at this)

def Chain.further (chain : Chain) : List Point := chain.points.tail

def Chain.last (chain : Chain) : Point :=
  chain.points.getLast (by
    intro empty
    have := chain.two_points
    simp [empty] at this)

@[simp]
theorem Chain.first_cons_further (chain : Chain) :
    chain.first :: chain.further = chain.points :=
  List.cons_head_tail _

/-- The point of an arc at a parameter between zero, its start, and one. -/
def Arc.pointAt
    (arc : Arc)
    (parameter : Float) :
    Point :=
  let sweep := arc.endAngle - arc.startAngle
  let angle := arc.startAngle + sweep * parameter
  { x := arc.center.x + arc.radius * Float.cos angle
    y := arc.center.y + arc.radius * Float.sin angle }

/-- The two ways to run through an arc. -/
inductive Direction where
  | clockwise
  | counterclockwise
deriving DecidableEq, Repr

/-- The way from the start angle to the end angle. -/
def Arc.direction (arc : Arc) : Direction :=
  if arc.endAngle - arc.startAngle < 0.0 then .clockwise
  else .counterclockwise

end Toolpath
