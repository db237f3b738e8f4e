import Toolpath.Entity.Label

/-!
# Starting points and distances

Cutting an entity begins at its starting point.  Ellipses offer none, and a
polyline without chains has none.  The distance between two entities is that
of their starting points.
-/

namespace Toolpath

/-- The leftmost point of a circle, where cutting it begins. -/
def Circle.start (circle : Circle) : Point :=
  ⟨circle.center.x - circle.radius, circle.center.y⟩

/-- Where cutting an entity begins. -/
def Entity.start? (entity : Entity) : Except EntityError Point :=
  match entity with
  | .line shape => .ok shape.start
  | .circle shape => .ok shape.start
  | .arc shape => .ok (shape.pointAt 0.0)
  | .ellipse shape =>
    .error (.notImplemented .startingPoint shape.label)
  | .polyline shape =>
    match shape.chains with
    | chain :: _ => .ok chain.first
    | [] => .error (.noGeometry shape.label)

/-- The starting point, needed for a measurement. -/
def Entity.measurableStart? (entity : Entity) : Except EntityError Point :=
  match entity.start? with
  | .ok start => .ok start
  | .error cause => .error (.unmeasurable entity.label cause)

/-- The distance between the starting points of two entities. -/
def Entity.distanceTo?
    (source target : Entity) :
    Except EntityError Float := do
  let first ← source.measurableStart?
  let second ← target.measurableStart?
  return first.distanceTo second

namespace Entity

variable {source target : Entity}

theorem distanceTo?_of_starts
    {first second : Point}
    (start : source.start? = .ok first)
    (finish : target.start? = .ok second) :
    source.distanceTo? target = .ok (first.distanceTo second) := by
  simp only [distanceTo?, measurableStart?, start, finish]
  rfl

/-- An entity that lacks a starting point ends a measurement from it, whatever
the other entity is. -/
theorem distanceTo?_of_source_error
    {cause : EntityError}
    (absent : source.start? = .error cause) :
    source.distanceTo? target = .error (.unmeasurable source.label cause) := by
  simp only [distanceTo?, measurableStart?, absent]
  rfl

theorem distanceTo?_of_target_error
    {first : Point}
    {cause : EntityError}
    (start : source.start? = .ok first)
    (absent : target.start? = .error cause) :
    source.distanceTo? target = .error (.unmeasurable target.label cause) := by
  simp only [distanceTo?, measurableStart?, start, absent]
  rfl

end Entity

end Toolpath
