import Toolpath.Toml.Value

/-!
# Records in TOML

A record is written as a table with its fields by name, or as an array with
its fields in their declared order.  Whatever else the table or the array
holds is ignored.
-/

namespace Toolpath.Toml

/-- The fields of an array, the missing ones at its end. -/
def arrayFields :
    List String → List Value → List (Option Value)
  | [], _ => []
  | _ :: names, [] => none :: arrayFields names []
  | _ :: names, element :: elements =>
    some element :: arrayFields names elements

/--
The fields of a record, in their declared order.  A date or time counts as a
table that has none of them.
-/
def recordFields?
    (names : List String) :
    Value → Option (List (Option Value))
  | .table entries =>
    some (names.map fun name =>
      (entries.find? fun entry => entry.1 == name).map Prod.snd)
  | .array elements => some (arrayFields names elements)
  | .dateTime => some (names.map fun _ => none)
  | _ => none

def optionalField?
    {Content : Type}
    (read : Value → Option Content)
    (default : Content) :
    Option Value → Option Content
  | some value => read value
  | none => some default

def requiredField?
    {Content : Type}
    (read : Value → Option Content) :
    Option Value → Option Content
  | some value => read value
  | none => none

/--
Reads one of several words: the word itself, or a table with the word as its
only key, which holds nothing.
-/
def word? : Value → Option String
  | .string content => some content
  | .table [(key, .table [])] => some key
  | .table [(key, .array [])] => some key
  | _ => none

/-- The double that a float or an integer denotes. -/
def asFloat? : Value → Option Float
  | .float value => some value
  | .integer value => some (Float.ofInt value)
  | _ => none

/-- The content of a text. -/
def asString? : Value → Option String
  | .string content => some content
  | _ => none

def asBool? : Value → Option Bool
  | .bool value => some value
  | _ => none

end Toolpath.Toml
