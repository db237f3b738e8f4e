import Toolpath.Drawing.Entities

/-!
# Reading headers

A header holds variables of a drawing.  Only the version is of interest, since
it decides how the texts after it are written.
-/

namespace Toolpath

def variableCode : Int := 9

def versionVariable : String := "$ACADVER"

def versionCode : Int := 1

/-- The encoding after a value of the variable of a name, unless the variable
does not take the value. -/
def Encoding.afterValue?
    (encoding : Encoding)
    (name : String)
    (tag : Tag) : Option Encoding :=
  if name = versionVariable then
    (tag.textOf? versionCode).map encoding.afterVersion
  else some encoding

/--
Reads a header up to its end: its variables, each with its name before its
values.  The result is the encoding of what follows.  The tag after a version
is read in the encoding that the version asks for.  Where the tags break off,
the variable ends before the header does.
-/
def readHeader?
    (encoding : Encoding)
    (current : Option String) :
    List Entry → Option (Encoding × List Entry)
  | [] => some (encoding, [])
  | entry :: entries =>
    match entry.item? encoding with
    | none => readHeader? encoding current entries
    | some .unreadable => none
    | some .gap =>
      if current.isSome then readHeader? encoding none entries
      else some (encoding, entries)
    | some (.tag tag) =>
      if tag.code = beginningCode then some (encoding, entry :: entries)
      else if tag.code = variableCode then
        readHeader? encoding tag.text? entries
      else
        match current with
        | none => none
        | some name =>
          match encoding.afterValue? name tag with
          | none => none
          | some encoding => readHeader? encoding current entries

theorem length_readHeader
    {encoding found : Encoding}
    {current : Option String}
    {entries rest : List Entry}
    (read : readHeader? encoding current entries = some (found, rest)) :
    rest.length ≤ entries.length := by
  fun_induction readHeader? encoding current entries with
  | case1 | case5 | case6 =>
    cases read
    simp
  | case3 | case8 | case9 => cases read
  | case2 | case4 | case7 | case10 =>
    rename_i hypothesis
    exact Nat.le_succ_of_le (hypothesis read)

end Toolpath
