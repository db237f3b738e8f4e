import Toolpath.Json.Value

/-!
# Records in JSON

A record is written as an object with its fields by name, or as an array with
its fields in their declared order.  An object may have further members, which
are ignored, but none of a record's fields twice.
-/

namespace Toolpath.Json

/-- The values of all members with the given key. -/
def membersNamed
    (name : String)
    (members : List (Option String × Value)) :
    List Value :=
  (members.filter fun member => member.1 == some name).map Prod.snd

/-- A field of an object; an answer is missing when the field is repeated. -/
def field?
    (members : List (Option String × Value))
    (name : String) :
    Option (Option Value) :=
  match membersNamed name members with
  | [] => some none
  | [value] => some (some value)
  | _ => none

/-- The fields of an object; all of its keys have to have content. -/
def objectFields?
    (names : List String)
    (members : List (Option String × Value)) :
    Option (List (Option Value)) :=
  if members.all fun member => member.1.isSome then
    names.mapM (field? members)
  else none

/-- The fields of an array, the missing ones at its end. -/
def arrayFields? :
    List String → List Value → Option (List (Option Value))
  | [], [] => some []
  | [], _ :: _ => none
  | _ :: names, [] => (arrayFields? names []).map (none :: ·)
  | _ :: names, element :: elements =>
    (arrayFields? names elements).map (some element :: ·)

/-- The fields of a record, in their declared order. -/
def recordFields?
    (names : List String) :
    Value → Option (List (Option Value))
  | .object members => objectFields? names members
  | .array elements => arrayFields? names elements
  | _ => none

def optionalField?
    {Content : Type}
    (read : Value → Option Content)
    (default : Content) :
    Option Value → Option Content
  | some value => read value
  | none => some default

def requiredField?
    {Content : Type}
    (read : Value → Option Content) :
    Option Value → Option Content
  | some value => read value
  | none => none

/--
Reads one of several words: the word itself, or an object with the word as its
only key and null as the value.
-/
def word? : Value → Option String
  | .text content => content
  | .object [(some key, .null)] => some key
  | _ => none

end Toolpath.Json
