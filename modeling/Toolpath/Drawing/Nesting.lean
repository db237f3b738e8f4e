import Toolpath.Drawing.Tag

/-!
# Groups and extended data

Among the tags of an entity or block there may be others that are meant for
certain applications: groups in braces, and extended data after the name of
an application.  Neither has a meaning here, but it has to be known where they
end.
-/

namespace Toolpath

/-- Where a tag stands in an entity or block. -/
inductive Nesting where
  /-- Among the tags of the entity or block itself. -/
  | outside
  /-- In a group, inside which so many further groups are open. -/
  | group (inner : Nat)
  /-- In extended data, where so many lists are open and tags with the given
  codes have to come next. -/
  | data (lists : Nat) (awaited : List Int)
deriving DecidableEq, Repr

/-- Whose tag it is that has been met. -/
inductive Belonging where
  /-- The entity's or block's own. -/
  | own
  /-- That of a group or of extended data, with the nesting after it. -/
  | nested (next : Nesting)
  /-- Nobody's, so that reading fails. -/
  | refused
deriving DecidableEq, Repr

namespace Nesting

def groupCode : Int := 102

/-- The code of the name before extended data. -/
def dataCode : Int := 1001

/-- The code of the braces around a list in extended data. -/
def listCode : Int := 1002

/-- The codes of the single values in extended data. -/
def valueCodes : List Int :=
  [1000, 1003, 1040, 1041, 1042, 1070, 1071]

/-- The code of bytes in extended data. -/
def bytesCode : Int := 1004

/-- The code of handles in extended data. -/
def handleCode : Int := 1005

def opensGroup (tag : Tag) : Bool :=
  match tag.text? with
  | some text => text.toList.head? = some '{'
  | none => false

/-- The text that closes a group or a list. -/
def closingBrace : String := "\x7d"

/-- Whether a tag can be part of extended data. -/
def isDatum (tag : Tag) : Bool := 1000 ≤ tag.code && tag.code ≠ dataCode

/-- The nesting after a tag of extended data with so many open lists.  The
coordinates of a point follow one another. -/
def afterDatum (lists : Nat) (tag : Tag) : Belonging :=
  if tag.code = listCode then
    if 0 < lists ∧ tag.text? = some closingBrace then
      .nested (.data (lists - 1) [])
    else .nested (.data (lists + 1) [])
  else if isBetween 1010 1013 tag.code then
    .nested (.data lists [tag.code + 10, tag.code + 20])
  else if valueCodes.contains tag.code
      || (tag.code = bytesCode && tag.isHex)
      || (tag.code = handleCode && tag.isHandle) then
    .nested (.data lists [])
  else .refused

/-- Whose tag it is that stands outside. -/
def afterOutside (tag : Tag) : Belonging :=
  if tag.code = groupCode then
    if opensGroup tag then .nested (.group 0) else .refused
  else if tag.code = dataCode then .nested (.data 0 [])
  else .own

/-- The nesting after the end of a group. -/
def afterGroup : Nat → Nesting
  | 0 => .outside
  | inner + 1 => .group inner

/--
Whose tag it is that stands in a nesting.  A group takes all tags up to its
end, and only a brace may end it.  Extended data end before a tag that cannot
be part of them, for which all lists have to be closed.
-/
def afterTag (tag : Tag) : Nesting → Belonging
  | outside => afterOutside tag
  | group inner =>
    if tag.code = groupCode then
      if opensGroup tag then .nested (.group (inner + 1))
      else if tag.text? = some closingBrace then .nested (afterGroup inner)
      else .refused
    else .nested (.group inner)
  | data lists (code :: awaited) =>
    if tag.code = code then .nested (.data lists awaited) else .refused
  | data lists [] =>
    if isDatum tag then afterDatum lists tag
    else if lists = 0 then afterOutside tag
    else .refused

/-- Where the tags break off, extended data end, unless a list is open or a
point unfinished.  A group does not end there. -/
def afterGap : Nesting → Belonging
  | outside => .own
  | data 0 [] => .nested .outside
  | _ => .refused

/-- Whether the end of all tags leaves nothing unfinished. -/
def isFinished (nesting : Nesting) : Bool := nesting.afterGap ≠ .refused

end Nesting

end Toolpath
