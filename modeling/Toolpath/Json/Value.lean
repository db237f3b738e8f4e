import Toolpath.Number.Layout
import Toolpath.Number.Scaled

/-!
# JSON values

A JSON document as a tree.  Numbers keep their spelling, so that nothing is
lost before somebody asks for a value.  A text is missing its content when it
is written with an escape for one half of a surrogate pair: such a text may
stand where nobody reads it.
-/

namespace Toolpath.Json

open Number (Numeral Layout)

inductive Value where
  | null
  | bool (value : Bool)
  | number (numeral : Numeral)
  | text (content : Option String)
  | array (elements : List Value)
  | object (members : List (Option String × Value))
deriving Inhabited

namespace Value

def string (content : String) : Value := .text (some content)

def natural (value : Nat) : Value := .number (Numeral.ofNat value)

/-- A double; JSON has no number for one that is not finite. -/
def float (value : Float) : Value :=
  match Layout.json.numeral? value with
  | some numeral => .number numeral
  | none => .null

/-- An object whose keys are given texts. -/
def record (members : List (String × Value)) : Value :=
  .object (members.map fun (key, value) => (some key, value))

/-- The double that a number comes to by scaling, if it is in range. -/
def asFloat? : Value → Option Float
  | .number numeral => numeral.toScaled?
  | _ => none

/-- The natural number that is spelled by digits alone. -/
def asNat? : Value → Option Nat
  | .number numeral => numeral.toNat?
  | _ => none

/-- The content of a text. -/
def asString? : Value → Option String
  | .text content => content
  | _ => none

def asBool? : Value → Option Bool
  | .bool value => some value
  | _ => none

end Value

end Toolpath.Json
