import Toolpath.Number.Layout
import Toolpath.Settings.Basic
import Toolpath.Text.Blank

/-!
# Validity of settings

A feed has to be positive and finite, the two spindle words have to show
something, and the home position has to be finite.
-/

namespace Toolpath

/-- What can be wrong with settings, or with the name of their file. -/
inductive SettingsError where
  | unsupportedFormat (extension : String)
  | valueOutOfRange (key value : String)
  | missingValue (key : String)
deriving DecidableEq, Repr

def SettingsError.message : SettingsError → String
  | unsupportedFormat extension =>
    "Unsupported config format: " ++ extension
  | valueOutOfRange key value =>
    "Value out of range for '" ++ key ++ "': " ++ value
  | missingValue key => "Missing configuration value: " ++ key

/-- Whether a number can be a feed. -/
def isFeed (value : Float) : Bool := value.isFinite && 0.0 < value

/-- The first thing wrong with the settings, if anything is. -/
def Settings.fault? (settings : Settings) : Option SettingsError :=
  let machine := settings.machine
  if isFeed machine.feed = false then
    some (.valueOutOfRange "machine.xy_feedrate"
      (Number.Layout.message.text machine.feed))
  else if Text.isAllBlank machine.spindleOn then
    some (.missingValue "machine.spindle_on")
  else if Text.isAllBlank machine.spindleOff then
    some (.missingValue "machine.spindle_off")
  else
    match settings.output.home with
    | some home =>
      if home.isFinite then none
      else some (.valueOutOfRange "output.home" home.text)
    | none => none

/-- Settings that nothing is wrong with. -/
structure ValidSettings where
  settings : Settings
  faultless : settings.fault? = none

/-- Valid settings, or the first thing wrong with the given ones. -/
def ValidSettings.of? (settings : Settings) :
    Except SettingsError ValidSettings :=
  match faultless : settings.fault? with
  | none => .ok ⟨settings, faultless⟩
  | some fault => .error fault

end Toolpath
