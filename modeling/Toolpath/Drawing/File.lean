import Toolpath.Directory
import Toolpath.Drawing.Import
import Toolpath.Drawing.Reader

/-!
# Drawings in files

A drawing is imported from a file whose extension says that it is one.
-/

namespace Toolpath

/-- Why no drawing could be imported. -/
inductive ImportError where
  /-- The extension of the path is that of no drawing. -/
  | unsupportedFormat (path : String)
  | file (cause : FileError)
  /-- The file holds no drawing. -/
  | malformed
deriving DecidableEq, Repr

def ImportError.message : ImportError → String
  | unsupportedFormat path => "Unsupported file format: " ++ path
  | file cause => cause.message
  | malformed => "DXF parse error"

/-- Whether a path has the extension of a drawing, in letters of any case. -/
def isDrawingPath (path : String) : Bool :=
  match extension? path with
  | some extension => extension.map Char.toLower == "dxf"
  | none => false

/-- Imports a drawing from a file, after a look at the extension. -/
def ImportReport.load
    (source : FileSource)
    (path : String)
    (includeBlocks : Bool) :
    Except ImportError ImportReport :=
  if isDrawingPath path then
    match source path with
    | .ok content =>
      match Drawing.ofBytes? content with
      | some drawing => .ok (drawing.toReport includeBlocks)
      | none => .error .malformed
    | .error cause => .error (.file cause)
  else .error (.unsupportedFormat path)

end Toolpath
