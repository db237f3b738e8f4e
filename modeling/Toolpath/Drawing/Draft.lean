import Toolpath.Drawing.Basic
import Toolpath.Drawing.Tag

/-!
# Drafts of records

The record of an entity is drafted tag by tag.  It starts with the defaults of
its type, a later tag overrides an earlier one, and tags without a meaning for
the type are passed over.
-/

namespace Toolpath

namespace Tag

/-- A number after a tag, which replaces it if it has the given code. -/
def placeReal (tag : Tag) (code : Int) (former : Float) : Float :=
  match tag.value with
  | .real value => if tag.code = code then value else former
  | _ => former

/-- An integer after a tag, which replaces it if it has the given code. -/
def placeInteger (tag : Tag) (code : Int) (former : Int) : Int :=
  match tag.value with
  | .integer value => if tag.code = code then value else former
  | _ => former

/-- A point after a tag: the code of its second coordinate is ten more than
that of the first. -/
def placePoint (tag : Tag) (code : Int) (former : Point) : Point :=
  ⟨tag.placeReal code former.x, tag.placeReal (code + 10) former.y⟩

def flagsCode : Int := 70

/-- The codes that tell more about the last vertex of a light polyline. -/
def isVertexDetail (tag : Tag) : Bool :=
  tag.code = 20 || tag.code = 40 || tag.code = 41 || tag.code = 42
    || tag.code = 91

/-- The vertices of a light polyline after a tag: a first coordinate begins a
new vertex, and a detail without a vertex is refused. -/
def extendVertices? (tag : Tag) (vertices : List Point) :
    Option (List Point) :=
  if tag.code = 10 then
    some (vertices ++ [⟨tag.placeReal 10 0.0, 0.0⟩])
  else if tag.isVertexDetail then
    match vertices.getLast? with
    | some last =>
      some (vertices.dropLast ++ [⟨last.x, tag.placeReal 20 last.y⟩])
    | none => none
  else some vertices

end Tag

/-- A record after a tag, unless the tag is refused. -/
def DrawingRecord.withTag? (tag : Tag) :
    DrawingRecord → Option DrawingRecord
  | .line start finish =>
    some (.line (tag.placePoint 10 start) (tag.placePoint 11 finish))
  | .circle center radius =>
    some (.circle (tag.placePoint 10 center) (tag.placeReal 40 radius))
  | .arc center radius startAngle endAngle =>
    some
      (.arc (tag.placePoint 10 center) (tag.placeReal 40 radius)
        (tag.placeReal 50 startAngle) (tag.placeReal 51 endAngle))
  | .ellipse center major minorToMajor startParameter endParameter =>
    some
      (.ellipse (tag.placePoint 10 center) (tag.placePoint 11 major)
        (tag.placeReal 40 minorToMajor) (tag.placeReal 41 startParameter)
        (tag.placeReal 42 endParameter))
  | .lightPolyline vertices flags =>
    (tag.extendVertices? vertices).map fun vertices =>
      .lightPolyline vertices (tag.placeInteger Tag.flagsCode flags)
  | .polyline vertices flags =>
    some (.polyline vertices (tag.placeInteger Tag.flagsCode flags))
  | .other => some .other

/-- The code of the names of an entity's parts. -/
def partCode : Int := 100

/-- What has been read of the record that is appended to an attribute. -/
structure Appendix where
  /-- Whether further tags belong to it. -/
  isOpen : Bool
  /-- The number of its flags. -/
  flags : Nat

namespace Appendix

/-- An appendix of which nothing has been read. -/
def unread : Appendix := ⟨false, 0⟩

def partName : String := "AcDbXrecord"

/-- The greatest number of flags in an appendix. -/
def greatestFlags : Nat := 3

/-- An appendix after a tag, unless that is one flag too many. -/
def withTag? (tag : Tag) (appendix : Appendix) : Option Appendix :=
  if tag.code = partCode then
    some ⟨tag.text? = some partName, appendix.flags⟩
  else if appendix.isOpen ∧ tag.code = Tag.flagsCode then
    if appendix.flags < greatestFlags then
      some ⟨true, appendix.flags + 1⟩
    else none
  else some appendix

end Appendix

/-- What has been read of an entity. -/
inductive Draft where
  | record (content : DrawingRecord)
  /-- An entity of which nothing is kept, with the codes of its handles. -/
  | unsupported (handles : List Int)
  /-- A text of several lines. -/
  | multilineText
  | attributeDefinition (appendix : Appendix)
  /-- An attribute, usually of the insertion before it. -/
  | attributeValue (appendix : Appendix)
  /-- The insertion of a block, which may announce attributes. -/
  | insertion (hasAttributes : Bool)
  /-- A dimension, whose kind may be known. -/
  | dimension (hasKind : Bool)
  /-- A vertex, usually of the polyline before it. -/
  | vertex (location : Point)
  /-- The end of vertices or attributes. -/
  | sequenceEnd

namespace Draft

/-- The codes of handles that entities of most types share. -/
def commonHandles : List Int := [5, 330, 347, 390]

/-- The types of entities of which nothing is kept, with the codes of their
handles. -/
def unsupportedTypes : List (String × List Int) :=
  [("3DFACE", commonHandles),
    ("3DSOLID", 350 :: commonHandles),
    ("ACAD_PROXY_ENTITY", commonHandles.erase 330),
    ("ARCALIGNEDTEXT", commonHandles),
    ("BODY", commonHandles),
    ("DGNUNDERLAY", 340 :: commonHandles),
    ("DWFUNDERLAY", 340 :: commonHandles),
    ("HELIX", commonHandles),
    ("IMAGE", commonHandles),
    ("LEADER", commonHandles),
    ("LIGHT", commonHandles),
    ("MLINE", 340 :: commonHandles),
    ("OLE2FRAME", commonHandles),
    ("OLEFRAME", commonHandles),
    ("PDFUNDERLAY", 340 :: commonHandles),
    ("POINT", commonHandles),
    ("RAY", commonHandles),
    ("REGION", commonHandles),
    ("RTEXT", commonHandles),
    ("SECTION", 360 :: commonHandles),
    ("SHAPE", commonHandles),
    ("SOLID", commonHandles),
    ("SPLINE", commonHandles),
    ("TEXT", commonHandles),
    ("TOLERANCE", commonHandles),
    ("TRACE", commonHandles),
    ("WIPEOUT", commonHandles),
    ("XLINE", commonHandles)]

/-- The draft with which an entity of a type begins; an answer is missing for
types that are not known. -/
def ofType? : String → Option Draft
  | "LINE" => some (.record .newLine)
  | "3DLINE" => some (.record .newLine)
  | "CIRCLE" => some (.record .newCircle)
  | "ARC" => some (.record .newArc)
  | "ELLIPSE" => some (.record .newEllipse)
  | "LWPOLYLINE" => some (.record (.lightPolyline [] 0))
  | "POLYLINE" => some (.record (.polyline [] 0))
  | "VERTEX" => some (.vertex .origin)
  | "SEQEND" => some .sequenceEnd
  | "INSERT" => some (.insertion false)
  | "ATTRIB" => some (.attributeValue .unread)
  | "ATTDEF" => some (.attributeDefinition .unread)
  | "MTEXT" => some .multilineText
  | "DIMENSION" => some (.dimension false)
  | name => (unsupportedTypes.lookup name).map .unsupported

/-- The codes of an entity's handles. -/
def handles : Draft → List Int
  | unsupported handles => handles
  | attributeValue _ => 340 :: commonHandles
  | attributeDefinition _ => 340 :: commonHandles
  | _ => commonHandles

/-- The code of the flag by which an insertion announces attributes. -/
def attributesCode : Int := 66

/-- The names of the parts that tell the kind of a dimension. -/
def dimensionKinds : List String :=
  ["AcDb3PointAngularDimension", "AcDbAlignedDimension",
    "AcDbDiametricDimension", "AcDbOrdinateDimension",
    "AcDbRadialDimension"]

def tellsKind (tag : Tag) : Bool :=
  match tag.textOf? partCode with
  | some name => dimensionKinds.contains name
  | none => false

/-- A draft after a tag, unless the tag is refused. -/
def withTag? (tag : Tag) (draft : Draft) : Option Draft :=
  if tag.lacksHandle draft.handles then none
  else
    match draft with
    | record former => (former.withTag? tag).map .record
    | insertion hasAttributes =>
      let former := if hasAttributes then 1 else 0
      some (.insertion (tag.placeInteger attributesCode former = 1))
    | dimension hasKind => some (.dimension (hasKind || tellsKind tag))
    | attributeDefinition appendix =>
      (appendix.withTag? tag).map .attributeDefinition
    | attributeValue appendix =>
      (appendix.withTag? tag).map .attributeValue
    | vertex location => some (.vertex (tag.placePoint 10 location))
    | draft => some draft

/-- Whether a draft is complete even where the tags break off. -/
def isKeptAtGap : Draft → Bool
  | record (.lightPolyline _ _) => true
  | multilineText => true
  | attributeDefinition _ => true
  | attributeValue _ => true
  | _ => false

def toRecord : Draft → DrawingRecord
  | record content => content
  | _ => .other

end Draft

end Toolpath
