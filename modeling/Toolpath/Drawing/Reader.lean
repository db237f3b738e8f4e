import Toolpath.Drawing.Blocks
import Toolpath.Drawing.Header

/-!
# Reading drawing files

A drawing file is a sequence of sections.  Entities and blocks are read from
the sections of those names, in any order and number.  A header tells the
version of the drawing, which decides how the values after it are written.
Other sections are passed over.

Where the items break off between two sections, the file has ended.  It is
malformed if it still goes on after that.
-/

namespace Toolpath

namespace Drawing

/-- A drawing without records. -/
def empty : Drawing := ⟨[], []⟩

/-- The contents of two drawings, one after the other. -/
def append (first second : Drawing) : Drawing :=
  ⟨first.records ++ second.records, first.blocks ++ second.blocks⟩

end Drawing

/-- Passes over a section up to its end, or to where the items break off. -/
def skipSection? : List Item → Option (List Item)
  | [] => some []
  | .gap :: items => some items
  | .unreadable :: _ => none
  | .tag tag :: items =>
    if tag.beginning? = some "ENDSEC" then some (.tag tag :: items)
    else skipSection? items

/-- Reads what a section of the given name holds of the drawing. -/
def readRecords? (name : String) (items : List Item) :
    Option (Drawing × List Item) :=
  match name with
  | "ENTITIES" =>
    let (records, rest) := readEntities .entity items
    some (⟨records, []⟩, rest)
  | "BLOCKS" =>
    (readBlocks? items).map fun (blocks, rest) => (⟨[], blocks⟩, rest)
  | _ => (skipSection? items).map fun rest => (.empty, rest)

structure SectionContents where
  drawing : Drawing
  /-- The encoding of what follows the section. -/
  encoding : Encoding

def readContents?
    (encoding : Encoding)
    (name : String)
    (entries : List Entry) :
    Option (SectionContents × List Entry) :=
  if name = "HEADER" then
    (readHeader? encoding none entries).map fun (encoding, rest) =>
      (⟨.empty, encoding⟩, rest)
  else
    (readRecords? name (Item.ofEntries encoding entries)).map
      fun (drawing, rest) =>
        (⟨drawing, encoding⟩, Item.leaving encoding entries rest)

theorem length_readContents
    {encoding : Encoding}
    {name : String}
    {entries rest : List Entry}
    {contents : SectionContents}
    (read : readContents? encoding name entries = some (contents, rest)) :
    rest.length ≤ entries.length := by
  unfold readContents? at read
  split at read
  · obtain ⟨⟨found, left⟩, reading, same⟩ := Option.map_eq_some_iff.mp read
    cases same
    exact length_readHeader reading
  · obtain ⟨⟨drawing, left⟩, reading, same⟩ := Option.map_eq_some_iff.mp read
    cases same
    exact Item.length_leaving encoding entries left

def nameCode : Int := 2

def Item.sectionName? : Item → Option String
  | .tag content => content.textOf? nameCode
  | _ => none

def readBeginning?
    (encoding : Encoding)
    (name : String)
    (entries : List Entry) : Option (List Entry) :=
  match Item.next? encoding entries with
  | some (item, rest) =>
    if item.beginning? = some name then some rest else none
  | none => none

theorem length_readBeginning
    {encoding : Encoding}
    {name : String}
    {entries rest : List Entry}
    (read : readBeginning? encoding name entries = some rest) :
    rest.length < entries.length := by
  unfold readBeginning? at read
  split at read
  · rename_i found
    split at read
    · cases read
      exact Item.length_next found
    · cases read
  · cases read

/-- Reads a section from its beginning to its end. -/
def readSection? (encoding : Encoding) (entries : List Entry) :
    Option (SectionContents × List Entry) := do
  let entries ← readBeginning? encoding "SECTION" entries
  let (item, entries) ← Item.next? encoding entries
  let name ← item.sectionName?
  let (contents, entries) ← readContents? encoding name entries
  let entries ← readBeginning? contents.encoding "ENDSEC" entries
  return (contents, entries)

theorem length_readSection
    {encoding : Encoding}
    {entries rest : List Entry}
    {contents : SectionContents}
    (read : readSection? encoding entries = some (contents, rest)) :
    rest.length < entries.length := by
  simp only [readSection?, Option.bind_eq_bind, Option.bind_eq_some_iff]
    at read
  obtain ⟨first, begins, ⟨item, second⟩, found, name, _,
    ⟨inside, third⟩, reading, fourth, ends, same⟩ := read
  cases same
  calc
    rest.length < third.length := length_readBeginning ends
    _ ≤ second.length := length_readContents reading
    _ < first.length := Item.length_next found
    _ < entries.length := length_readBeginning begins

/-- Whether the items of a file end here, of which the first may be missing. -/
def isFileEnd (encoding : Encoding) (entries : List Entry) : Bool :=
  match Item.next? encoding entries with
  | none => true
  | some (.gap, _) => true
  | some (item, _) => item.beginning? = some "EOF"

/--
Reads all sections of a file; nothing is read after the tag that ends it.  The
values of a section are read in the encoding that is known before it.
-/
def readSections? (encoding : Encoding) (entries : List Entry) :
    Option Drawing :=
  match Item.next? encoding entries with
  | none => some .empty
  | some (.gap, rest) =>
    if isFileEnd encoding rest then some .empty else none
  | some (item, _) =>
    if item.beginning? = some "EOF" then some .empty
    else
      match _reading : readSection? encoding entries with
      | some (contents, rest) =>
        (readSections? contents.encoding rest).map contents.drawing.append
      | none => none
termination_by entries.length
decreasing_by exact length_readSection _reading

/-- The drawing in a file, unless the file is malformed. -/
def Drawing.ofBytes? (content : ByteArray) : Option Drawing :=
  readSections? .codePage (Entry.ofBytes content)

end Toolpath
