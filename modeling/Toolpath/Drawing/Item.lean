import Toolpath.Drawing.Tag

/-!
# Items of drawing files

`Entry.ofLines` takes the lines of a file in pairs of a code and a value, and
keeps the places where there is no pair: an empty line in the place of a code,
and a code that cannot be read.  `Item.ofEntries` reads the values, for which
the encoding has to be known.

The encoding may change in the midst of a file, so what is left of the items
must be found again among the entries: `Item.leaving` counts how many of the
items have been used.  The statements say that no more entries are left than
there were, and fewer of them after an item.
-/

namespace Toolpath

/-- What stands in the place of a tag before its value is read. -/
inductive Entry where
  /-- A code and the line after it. -/
  | pair (code : Int) (line : List UInt8)
  /-- A line that should be a code. -/
  | unreadable
  /-- An empty line in the place of a code. -/
  | gap

/-- Removes the bytes of a mark that stand in their places in a line, each for
itself. -/
def dropMarkBytes : List UInt8 → List UInt8 → List UInt8
  | expected :: mark, byte :: line =>
    if byte = expected then dropMarkBytes mark line
    else byte :: dropMarkBytes mark line
  | _, line => line

/-- The characters of a line with a code, without blanks around them. -/
def codeCharacters? (line : List UInt8) : Option (List Char) :=
  (Encoding.codePage.decodeLine? (dropMarkBytes encodingMark line)).map
    Text.trimBlanks

/-- The entries of a file's lines.  A code on the last line has an empty
value. -/
def Entry.ofLines : List (List UInt8) → List Entry
  | [] => []
  | line :: lines =>
    match codeCharacters? line with
    | none => .unreadable :: Entry.ofLines lines
    | some [] => .gap :: Entry.ofLines lines
    | some characters =>
      match readWord? 32 characters with
      | none => .unreadable :: Entry.ofLines lines
      | some code =>
        match lines with
        | [] => [.pair code []]
        | value :: lines => .pair code value :: Entry.ofLines lines

def Entry.ofBytes (content : ByteArray) : List Entry :=
  Entry.ofLines (Text.split 0x0a content.toList)

/-- One thing found where a tag is expected. -/
inductive Item where
  | tag (tag : Tag)
  /-- A code or value that cannot be read. -/
  | unreadable
  /-- An empty line in the place of a code. -/
  | gap

/-- The item of an entry, if it is no remark. -/
def Entry.item? (encoding : Encoding) : Entry → Option Item
  | .pair code line =>
    match (TagType.ofCode? code).bind (TagType.read? encoding line) with
    | some value =>
      if code = remarkCode then none else some (.tag ⟨code, value⟩)
    | none => some .unreadable
  | .unreadable => some .unreadable
  | .gap => some .gap

namespace Item

def ofEntries (encoding : Encoding) (entries : List Entry) : List Item :=
  entries.filterMap (Entry.item? encoding)

/-- The first item of entries and the entries after it. -/
def next? (encoding : Encoding) : List Entry → Option (Item × List Entry)
  | [] => none
  | entry :: entries =>
    match entry.item? encoding with
    | some item => some (item, entries)
    | none => next? encoding entries

theorem length_next
    {encoding : Encoding}
    {entries rest : List Entry}
    {item : Item}
    (found : next? encoding entries = some (item, rest)) :
    rest.length < entries.length := by
  fun_induction next? encoding entries with
  | case1 => cases found
  | case2 =>
    cases found
    exact Nat.lt_succ_self _
  | case3 _ _ _ hypothesis => exact Nat.lt_succ_of_lt (hypothesis found)

/-- What is left of the entries after a number of items. -/
def dropFrom (encoding : Encoding) : Nat → List Entry → List Entry
  | 0, entries => entries
  | _, [] => []
  | count + 1, entry :: entries =>
    if (entry.item? encoding).isSome then
      dropFrom encoding count entries
    else dropFrom encoding (count + 1) entries

theorem length_dropFrom
    (encoding : Encoding)
    (count : Nat)
    (entries : List Entry) :
    (dropFrom encoding count entries).length ≤ entries.length := by
  fun_induction dropFrom encoding count entries with
  | case1 => exact Nat.le_refl _
  | case2 => exact Nat.le_refl _
  | case3 _ _ _ _ hypothesis => exact Nat.le_succ_of_le hypothesis
  | case4 _ _ _ _ hypothesis => exact Nat.le_succ_of_le hypothesis

/-- What is left of the entries when the last of their items are left. -/
def leaving
    (encoding : Encoding)
    (entries : List Entry)
    (left : List Item) : List Entry :=
  dropFrom encoding ((ofEntries encoding entries).length - left.length)
    entries

theorem length_leaving
    (encoding : Encoding)
    (entries : List Entry)
    (left : List Item) :
    (leaving encoding entries left).length ≤ entries.length :=
  length_dropFrom encoding _ entries

end Item

end Toolpath
