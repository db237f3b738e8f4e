import Toolpath.Directory
import Toolpath.Settings.JsonForm
import Toolpath.Settings.TomlForm
import Toolpath.Settings.Validity

/-!
# Settings in files

The extension of a file's name decides the format.  Only valid settings are
loaded or saved.
-/

namespace Toolpath

/-- Why settings could not be loaded or saved. -/
inductive StorageError where
  | file (cause : FileError)
  /-- The file holds no settings in JSON. -/
  | json
  /-- The file holds no settings in TOML. -/
  | toml
  | settings (cause : SettingsError)
deriving DecidableEq, Repr

inductive SettingsFormat where
  | json
  | toml
deriving DecidableEq, Repr

namespace SettingsFormat

/-- The format that a path's extension stands for. -/
def ofPath (path : String) : Except SettingsError SettingsFormat :=
  match (extension? path).getD "" with
  | "json" => .ok json
  | "toml" => .ok toml
  | other => .error (.unsupportedFormat other)

def parse (text : String) : SettingsFormat → Except StorageError Settings
  | json =>
    match (Json.read? text).bind Settings.ofJson? with
    | some settings => .ok settings
    | none => .error .json
  | toml =>
    match (Toml.read? text).bind Settings.ofToml? with
    | some settings => .ok settings
    | none => .error .toml

def print (settings : Settings) : SettingsFormat → String
  | json => settings.toJson.indentedText
  | toml => settings.tomlText

end SettingsFormat

/--
Loads settings: the file is read before its extension is looked at, and the
settings are validated last.
-/
def Settings.load
    (source : FileSource)
    (path : String) :
    Except StorageError Settings := do
  let text ← (source.text path).mapError .file
  let format ← (SettingsFormat.ofPath path).mapError .settings
  let settings ← format.parse text
  let valid ← (ValidSettings.of? settings).mapError .settings
  return valid.settings

/-- Saves settings, which are validated first; the file is written last. -/
def Directory.saveSettings
    (directory : Directory)
    (path : String)
    (settings : Settings) :
    Except StorageError Directory := do
  let valid ← (ValidSettings.of? settings).mapError .settings
  let format ← (SettingsFormat.ofPath path).mapError .settings
  (directory.writeText path (format.print valid.settings)).mapError .file

end Toolpath
