import Toolpath.Drawing.Basic

/-!
# Import of drawings

Every record of a drawing becomes one entity or is counted as skipped.
-/

namespace Toolpath

/-- Degrees in radians. -/
def radians (degrees : Float) : Float := degrees * (halfTurn / 180.0)

/--
The angles of an arc that runs counter-clockwise, in radians: an end before
the start is moved on by one turn.
-/
def sweepAngles (startDegrees endDegrees : Float) : Float × Float :=
  let start := radians startDegrees
  let finish := radians endDegrees
  if finish < start then (start, finish + fullTurn) else (start, finish)

/-- Whether the flags of a polyline close it. -/
def isClosed (flags : Int) : Bool := flags % 2 ≠ 0

/-- Repeats the first point at the end, unless the last one equals it. -/
def closeChain (points : List Point) : List Point :=
  match points.head?, points.getLast? with
  | some first, some last =>
    if first == last then points else points ++ [first]
  | _, _ => points

/-- The polyline of a single chain. -/
def polylineOfRecord
    (points : List Point)
    (flags : Int) :
    Except EntityError PolyLine :=
  PolyLine.ofRows? [if isClosed flags then closeChain points else points]

/-- The entity that a record describes; an answer is missing when entities of
that kind are not supported. -/
def DrawingRecord.convert? :
    DrawingRecord → Option (Except EntityError Entity)
  | .line start finish => some (.ok (.line ⟨start, finish⟩))
  | .circle center radius =>
    some ((Circle.ofParts? center radius).map .circle)
  | .arc center radius startDegrees endDegrees =>
    let angles := sweepAngles startDegrees endDegrees
    some ((Arc.ofParts? center radius angles.1 angles.2).map .arc)
  | .ellipse center major minorToMajor startParameter endParameter =>
    some ((Ellipse.ofParts? center major minorToMajor startParameter
      endParameter).map .ellipse)
  | .lightPolyline points flags =>
    some ((polylineOfRecord points flags).map .polyline)
  | .polyline points flags =>
    some ((polylineOfRecord points flags).map .polyline)
  | .other => none

/-- The entity of a record, if it is supported and sound. -/
def DrawingRecord.entity? (record : DrawingRecord) : Option Entity :=
  match record.convert? with
  | some (.ok entity) => some entity
  | _ => none

structure ImportReport where
  entities : List Entity
  /-- How many records became no entity. -/
  skipped : Nat

/-- The records that an import visits: those of the drawing and, if they are
included, those of its blocks. -/
def Drawing.visited
    (drawing : Drawing)
    (includeBlocks : Bool) :
    List DrawingRecord :=
  if includeBlocks then drawing.records ++ drawing.blocks.flatten
  else drawing.records

def Drawing.toReport
    (drawing : Drawing)
    (includeBlocks : Bool) :
    ImportReport :=
  let visited := drawing.visited includeBlocks
  { entities := visited.filterMap DrawingRecord.entity?
    skipped := visited.countP fun record => record.entity?.isNone }

end Toolpath
