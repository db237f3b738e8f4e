import Toolpath.Drawing.Encoding
import Toolpath.Number.Scan
import Toolpath.Text.Blank

/-!
# Tags of drawing files

A drawing file is a sequence of tags.  Each takes two lines: a code, and a
value whose type follows from the code.
-/

namespace Toolpath

open Number (readFloat? readInteger?)

/-- The types of values in a drawing file. -/
inductive TagType where
  | text
  /-- Bytes in hexadecimal digits. -/
  | binary
  | real
  /-- An integer of 16 bits, written as a real number. -/
  | short
  /-- An integer of 32 bits. -/
  | long
  /-- An integer of 64 bits. -/
  | wide
deriving DecidableEq, Repr

/-- The code of remarks, which are passed over. -/
def remarkCode : Int := 999

/-- The codes from `first` to `last`. -/
def isBetween (first last code : Int) : Bool := first ≤ code && code ≤ last

/-- The type of the values with a code, if the code has a meaning at all. -/
def TagType.ofCode? (code : Int) : Option TagType :=
  if isBetween 0 9 code then some text
  else if isBetween 10 59 code then some real
  else if isBetween 60 79 code then some short
  else if isBetween 90 99 code then some long
  else if isBetween 100 102 code || code = 105 then some text
  else if isBetween 110 149 code then some real
  else if isBetween 160 169 code then some wide
  else if isBetween 170 179 code then some short
  else if isBetween 210 239 code then some real
  else if isBetween 270 299 code then some short
  else if isBetween 300 309 code then some text
  else if isBetween 310 319 code then some binary
  else if isBetween 320 369 code then some text
  else if isBetween 370 389 code then some short
  else if isBetween 390 399 code then some text
  else if isBetween 400 409 code then some short
  else if isBetween 410 419 code then some text
  else if isBetween 420 429 code then some long
  else if isBetween 430 439 code then some text
  else if isBetween 440 459 code then some long
  else if isBetween 460 469 code then some real
  else if isBetween 470 481 code then some text
  else if isBetween 999 1009 code then some text
  else if isBetween 1010 1059 code then some real
  else if isBetween 1060 1070 code then some short
  else if code = 1071 then some long
  else none

inductive TagValue where
  | text (content : String)
  | binary
  | real (value : Float)
  | integer (value : Int)

/-- A code with its value. -/
structure Tag where
  code : Int
  value : TagValue

namespace Tag

def text? (tag : Tag) : Option String :=
  match tag.value with
  | .text content => some content
  | _ => none

def textOf? (tag : Tag) (code : Int) : Option String :=
  if tag.code = code then tag.text? else none

/-- Whether the text of a tag consists of hexadecimal digits, of which there
may be none. -/
def isHex (tag : Tag) : Bool :=
  match tag.text? with
  | some text => text.toList.all Text.isHexDigit
  | none => false

/-- Whether a tag holds the handle of an object: hexadecimal digits, perhaps
with blanks around them. -/
def isHandle (tag : Tag) : Bool :=
  match tag.text? with
  | some text => (Text.trimBlanks text.toList).all Text.isHexDigit
  | none => false

/-- Whether a tag should hold a handle, for which it has one of the given
codes, and does not. -/
def lacksHandle (tag : Tag) (codes : List Int) : Bool :=
  codes.contains tag.code && !tag.isHandle

end Tag

/-- An integer that fits into a signed word of the given number of bits. -/
def readWord? (bits : Nat) (text : List Char) : Option Int :=
  let bound : Int := Nat.pow 2 (bits - 1)
  (readInteger? text).filter fun value => -bound ≤ value ∧ value < bound

/--
Reads a value.  Blanks around numbers do not matter.  A short integer is a
real number without its fraction, and takes the nearest value of its range.
-/
def TagType.read?
    (encoding : Encoding)
    (line : List UInt8)
    (type : TagType) :
    Option TagValue := do
  let characters ← encoding.decodeLine? line
  let trimmed := Text.trimBlanks characters
  match type with
  | text =>
    return .text (String.ofList (encoding.replaceEscapes characters))
  | binary => if characters.all Text.isHexDigit then some .binary else none
  | real => (readFloat? trimmed).map .real
  | short =>
    (readFloat? trimmed).map fun value => .integer value.toInt16.toInt
  | long => (readWord? 32 trimmed).map .integer
  | wide => (readWord? 64 trimmed).map .integer

end Toolpath
