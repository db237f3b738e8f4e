import Toolpath.Motion.Call
import Toolpath.Entity.Start

/-!
# Emission

`Entity.calls?` is the sequence of calls by which an entity is cut.  Apart
from a polyline without chains, an entity that can be cut makes one block, or
one for every chain: a remark with the entity's label, a move to where the cut
begins, the cut, and a separator.
-/

namespace Toolpath

/-- A line is cut without engaging the tool: the straight cut does that. -/
def Line.calls (line : Line) : List Call :=
  [ .comment line.label,
    .go line.start,
    .draw line.finish,
    .separator ]

/-- A circle is cut all around from its starting point. -/
def Circle.calls (circle : Circle) : List Call :=
  [ .comment circle.label,
    .go circle.start,
    .start,
    .circle circle.radius,
    .stop,
    .separator ]

/-- An arc records the position that it will lead to before it is cut. -/
def Arc.calls (arc : Arc) : List Call :=
  let first := arc.pointAt 0.0
  let last := arc.pointAt 1.0
  [ .comment arc.label,
    .go first,
    .setPosition last,
    .start,
    .arc last ⟨arc.center.x - first.x, arc.center.y - first.y⟩,
    .stop,
    .separator ]

/-- The straight cuts through the given points. -/
def drawThrough (points : List Point) : List Call :=
  points.flatMap fun point => [.draw point, .setPosition point]

/-- A chain under the label of its polyline. -/
def Chain.calls
    (label : String)
    (chain : Chain) :
    List Call :=
  [.comment label, .go chain.first, .start]
    ++ drawThrough chain.further
    ++ [.stop, .separator]

/-- A polyline is cut chain by chain. -/
def PolyLine.calls (polyline : PolyLine) : List Call :=
  polyline.chains.flatMap (Chain.calls polyline.label)

/-- The calls by which an entity is cut; ellipses cannot be cut. -/
def Entity.calls? : Entity → Except EntityError (List Call)
  | .line shape => .ok shape.calls
  | .circle shape => .ok shape.calls
  | .arc shape => .ok shape.calls
  | .ellipse shape => .error (.notImplemented .emit shape.label)
  | .polyline shape => .ok shape.calls

end Toolpath
