import Toolpath.Number.Layout

/-!
# What can go wrong with an entity

Errors are causes.  Their wording is one function, `EntityError.message`.
-/

namespace Toolpath

inductive EntityKind where
  | line
  | circle
  | arc
  | ellipse
  | polyline
deriving DecidableEq, Repr

namespace EntityKind

def name : EntityKind → String
  | line => "Line"
  | circle => "Circle"
  | arc => "Arc"
  | ellipse => "Ellipse"
  | polyline => "PolyLine"

/-- The word for a kind in documents. -/
def keyword : EntityKind → String
  | line => "line"
  | circle => "circle"
  | arc => "arc"
  | ellipse => "ellipse"
  | polyline => "polyline"

/-- The kind with the given word in a document. -/
def ofKeyword? : String → Option EntityKind
  | "line" => some line
  | "circle" => some circle
  | "arc" => some arc
  | "ellipse" => some ellipse
  | "polyline" => some polyline
  | _ => none

theorem ofKeyword?_keyword (kind : EntityKind) :
    ofKeyword? kind.keyword = some kind := by
  cases kind <;> rfl

end EntityKind

/-- The operations that some kinds of entity do not offer. -/
inductive Operation where
  | emit
  | startingPoint
deriving DecidableEq, Repr

def Operation.name : Operation → String
  | emit => "emit"
  | startingPoint => "starting_point"

/-- Why the data of an entity does not describe a shape. -/
inductive Flaw where
  | circleCenter
  | arcCenter
  | radius (given : Float)
  | arcAngles
  | ellipseAxis
  | ellipseRatio (given : Float)
  | ellipseParameters
  /-- A chain has fewer than two points. -/
  | shortChain (index points : Nat)
  /-- A chain holds a point that is not finite. -/
  | chainPoint (index : Nat)

def Flaw.message : Flaw → String
  | circleCenter => "circle center must be finite"
  | arcCenter => "arc center must be finite"
  | radius given =>
    "radius must be positive, got " ++ Number.Layout.message.text given
  | arcAngles => "arc angles must be finite"
  | ellipseAxis => "ellipse center and axis must be finite"
  | ellipseRatio given =>
    "minor/major ratio must be in (0, 1], got "
      ++ Number.Layout.message.text given
  | ellipseParameters => "ellipse parameters must be finite"
  | shortChain index points =>
    "polyline chain " ++ toString index ++ " has " ++ toString points
      ++ " point(s), at least 2 required"
  | chainPoint index =>
    "polyline chain " ++ toString index ++ " contains a non-finite point"

/-- What can go wrong with an entity. -/
inductive EntityError where
  /-- An entity of this kind has no attribute of this name. -/
  | missingAttribute (name : String) (kind : EntityKind)
  /-- The labelled entity is empty. -/
  | noGeometry (label : String)
  /-- The labelled entity does not offer the operation. -/
  | notImplemented (operation : Operation) (label : String)
  /-- The data of an entity does not describe a shape. -/
  | flawed (flaw : Flaw)
  /-- The labelled entity has no starting point to measure from. -/
  | unmeasurable (label : String) (cause : EntityError)

/-- The families of errors, which are told apart by whoever handles them. -/
inductive EntityError.Family where
  | missingAttribute
  | noGeometry
  | notImplemented
  | invalidGeometry
deriving DecidableEq, Repr

/-- An entity that cannot be measured is reported as invalid geometry, whatever
the cause is. -/
def EntityError.family : EntityError → Family
  | missingAttribute _ _ => .missingAttribute
  | noGeometry _ => .noGeometry
  | notImplemented _ _ => .notImplemented
  | flawed _ => .invalidGeometry
  | unmeasurable _ _ => .invalidGeometry

def EntityError.message : EntityError → String
  | missingAttribute name kind =>
    "No member \"" ++ name ++ "\" contained in " ++ kind.name
  | noGeometry label => "No geometry: " ++ label
  | notImplemented operation label =>
    operation.name ++ " not implemented for " ++ label
  | flawed flaw => "Invalid geometry: " ++ flaw.message
  | unmeasurable label cause =>
    "Invalid geometry: cannot measure distance from " ++ label ++ ": "
      ++ cause.message

end Toolpath
