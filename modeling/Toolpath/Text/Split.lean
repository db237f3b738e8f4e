/-!
# Splitting text

A text of characters or bytes is split at every occurrence of a mark, which
belongs to no part.  A line of text ends in a line feed, with or without a
carriage return before it.
-/

namespace Toolpath.Text

variable {α : Type} [DecidableEq α]

/-- Puts a unit before the parts of the text that follows it. -/
def splitStep
    (mark unit : α)
    (parts : List (List α)) :
    List (List α) :=
  if unit = mark then [] :: parts
  else
    match parts with
    | part :: further => (unit :: part) :: further
    | [] => [[unit]]

/-- The parts of a text between the marks; there is one more than marks. -/
def split
    (mark : α)
    (text : List α) :
    List (List α) :=
  text.foldr (splitStep mark) [[]]

/-- A line without the carriage return before its end. -/
def dropReturn (line : List Char) : List Char :=
  if line.getLast? = some '\r' then line.dropLast else line

end Toolpath.Text
