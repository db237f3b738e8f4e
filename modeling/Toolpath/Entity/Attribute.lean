import Toolpath.Entity.Label

/-!
# Attributes of entities

An entity's data can be asked for by name.  A name that the entity's kind does
not have is no error until the value is required.
-/

namespace Toolpath

inductive AttributeValue where
  | point (value : Point)
  | scalar (value : Float)
  | count (value : Nat)

namespace AttributeValue

/-- The value as it is displayed. -/
def text : AttributeValue → String
  | point value => value.text
  | scalar value => Number.fixedText value
  | count value => toString value

def asPoint? : AttributeValue → Option Point
  | point value => some value
  | _ => none

def asScalar? : AttributeValue → Option Float
  | scalar value => some value
  | _ => none

end AttributeValue

def Entity.attribute?
    (entity : Entity)
    (name : String) :
    Option AttributeValue :=
  match entity, name with
  | .line shape, "start" => some (.point shape.start)
  | .line shape, "end" => some (.point shape.finish)
  | .circle shape, "center" => some (.point shape.center)
  | .circle shape, "radius" => some (.scalar shape.radius)
  | .arc shape, "center" => some (.point shape.center)
  | .arc shape, "radius" => some (.scalar shape.radius)
  | .arc shape, "start_angle" => some (.scalar shape.startAngle)
  | .arc shape, "end_angle" => some (.scalar shape.endAngle)
  | .ellipse shape, "center" => some (.point shape.center)
  | .ellipse shape, "major" => some (.point shape.major)
  | .ellipse shape, "minor_to_major" => some (.scalar shape.minorToMajor)
  | .ellipse shape, "start_param" => some (.scalar shape.startParameter)
  | .ellipse shape, "end_param" => some (.scalar shape.endParameter)
  | .polyline shape, "segments" => some (.count shape.chains.length)
  | _, _ => none

/-- The attribute as it is displayed: nothing, when there is none. -/
def Entity.attributeText
    (entity : Entity)
    (name : String) :
    String :=
  match entity.attribute? name with
  | some value => value.text
  | none => ""

/-- The attribute, or the complaint that there is none. -/
def Entity.requireAttribute
    (entity : Entity)
    (name : String) :
    Except EntityError AttributeValue :=
  match entity.attribute? name with
  | some value => .ok value
  | none => .error (.missingAttribute name entity.kind)

end Toolpath
