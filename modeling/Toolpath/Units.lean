/-!
# Measurement systems

A program is written in millimetres or in inches.
-/

namespace Toolpath

/-- The unit of length that a program is written in. -/
inductive MeasurementSystem where
  | metric
  | imperial
deriving DecidableEq, Repr

namespace MeasurementSystem

/-- The code that selects the system at the start of a program. -/
def code : MeasurementSystem → String
  | metric => "G21"
  | imperial => "G20"

/-- The abbreviation of the unit of length. -/
def label : MeasurementSystem → String
  | metric => "mm"
  | imperial => "in"

/-- The word for the system in settings documents. -/
def keyword : MeasurementSystem → String
  | metric => "metric"
  | imperial => "imperial"

/-- The system with the given word in a settings document. -/
def ofKeyword? : String → Option MeasurementSystem
  | "metric" => some metric
  | "imperial" => some imperial
  | _ => none

/-- Lower case of the letters A to Z.  No character outside them has a letter
of a system's name for its lower case. -/
def foldCase (text : String) : String := text.map Char.toLower

/--
Reads the name of a system as a person writes it: in any case, in full or as
its unit, and without blanks around it.
-/
def ofName? (name : String) : Option MeasurementSystem :=
  match foldCase name with
  | "metric" => some metric
  | "mm" => some metric
  | "imperial" => some imperial
  | "inch" => some imperial
  | "in" => some imperial
  | _ => none

/-- What is said about a name that no system has. -/
def unknownMessage (name : String) : String :=
  "Unknown measurement system: " ++ name

theorem ofKeyword?_keyword (system : MeasurementSystem) :
    ofKeyword? system.keyword = some system := by
  cases system <;> rfl

end MeasurementSystem

end Toolpath
