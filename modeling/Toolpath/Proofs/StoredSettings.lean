import Toolpath.Proofs.WrittenFiles
import Toolpath.Settings.Storage

/-!
# Settings that are stored

Settings are validated before they are saved and after they are loaded.  This
module says when saving succeeds, and reduces the question whether saved
settings are loaded again to one about texts: whether the format reads back
what it prints.
-/

namespace Toolpath

/-- Nothing is wrong with settings exactly if the feed can be one, both words
show something, and the home position is finite. -/
theorem Settings.fault?_eq_none_iff {settings : Settings} :
    settings.fault? = none ↔
      isFeed settings.machine.feed = true ∧
      Text.isAllBlank settings.machine.spindleOn = false ∧
      Text.isAllBlank settings.machine.spindleOff = false ∧
      ∀ home ∈ settings.output.home, home.isFinite = true := by
  cases feed : isFeed settings.machine.feed with
  | false => simp [fault?, feed]
  | true =>
      cases spindleOn : Text.isAllBlank settings.machine.spindleOn with
      | true => simp [fault?, feed, spindleOn]
      | false =>
          cases spindleOff : Text.isAllBlank settings.machine.spindleOff with
          | true => simp [fault?, feed, spindleOn, spindleOff]
          | false =>
              cases position : settings.output.home with
              | none => simp [fault?, feed, spindleOn, spindleOff, position]
              | some home =>
                  simp [fault?, feed, spindleOn, spindleOff, position]

namespace ValidSettings

/-- Settings are accepted as they are, and only without a fault. -/
theorem of?_eq_ok_iff
    {settings : Settings}
    {valid : ValidSettings} :
    ValidSettings.of? settings = .ok valid ↔ valid.settings = settings := by
  rw [ValidSettings.of?]
  split
  next faultless =>
    rw [Except.ok.injEq]
    constructor
    · rintro rfl
      rfl
    · rintro rfl
      rfl
  next fault faulty =>
    constructor
    · intro accepted
      cases accepted
    · rintro rfl
      rw [valid.faultless] at faulty
      cases faulty

@[simp]
theorem of?_settings (valid : ValidSettings) :
    ValidSettings.of? valid.settings = .ok valid :=
  of?_eq_ok_iff.mpr rfl

end ValidSettings

/-- The extension that stands for a format. -/
def SettingsFormat.extension : SettingsFormat → String
  | json => "json"
  | toml => "toml"

theorem SettingsFormat.ofPath_of_extension
    (format : SettingsFormat)
    {path : String}
    (known : extension? path = some format.extension) :
    ofPath path = .ok format := by
  rw [ofPath, known]
  cases format with
  | json => rfl
  | toml => rfl

/-- Saving valid settings in a format comes to writing a text. -/
theorem Directory.saveSettings_of_valid
    (directory : Directory)
    {path : String}
    {format : SettingsFormat}
    (chosen : SettingsFormat.ofPath path = .ok format)
    (valid : ValidSettings) :
    directory.saveSettings path valid.settings =
      (directory.writeText path (format.print valid.settings)).mapError
        .file := by
  simp [saveSettings, chosen, Except.mapError, bind, Except.bind]

/-- Saving succeeds for valid settings, in the format that the path stands for,
if the file can be written. -/
theorem Directory.saveSettings_eq_ok_iff
    {directory saved : Directory}
    {path : String}
    {settings : Settings} :
    directory.saveSettings path settings = .ok saved ↔
      settings.fault? = none ∧
      ∃ format, SettingsFormat.ofPath path = .ok format ∧
        directory.writeText path (format.print settings) = .ok saved := by
  constructor
  · intro succeeds
    cases accepted : ValidSettings.of? settings with
    | error fault =>
        simp [saveSettings, accepted, Except.mapError, bind,
          Except.bind] at succeeds
    | ok valid =>
        obtain rfl := ValidSettings.of?_eq_ok_iff.mp accepted
        cases chosen : SettingsFormat.ofPath path with
        | error fault =>
            simp [saveSettings, chosen, Except.mapError, bind,
              Except.bind] at succeeds
        | ok format =>
            rw [directory.saveSettings_of_valid chosen] at succeeds
            refine ⟨valid.faultless, format, rfl, ?_⟩
            cases written :
                directory.writeText path (format.print valid.settings) with
            | error cause =>
                rw [written] at succeeds
                cases succeeds
            | ok changed =>
                rw [written] at succeeds
                cases succeeds
                rfl
  · rintro ⟨faultless, format, chosen, written⟩
    rw [directory.saveSettings_of_valid chosen ⟨settings, faultless⟩,
      written]
    rfl

/-- Settings whose text is read back are loaded as they have been saved. -/
theorem Settings.load_of_saveSettings
    {directory saved : Directory}
    {path : String}
    {format : SettingsFormat}
    (chosen : SettingsFormat.ofPath path = .ok format)
    {valid : ValidSettings}
    (reads_back :
      format.parse (format.print valid.settings) = .ok valid.settings)
    (succeeds : directory.saveSettings path valid.settings = .ok saved) :
    Settings.load saved.source path = .ok valid.settings := by
  obtain ⟨-, other, same, written⟩ :=
    Directory.saveSettings_eq_ok_iff.mp succeeds
  obtain rfl : other = format := by
    simpa [same] using chosen
  simp [Settings.load, Directory.text_of_writeText written, chosen,
    reads_back, Except.mapError, bind, Except.bind, pure, Except.pure]

/-- Where a path leads to a name that can be written, valid settings are saved
in the format of its extension. -/
theorem Directory.exists_saveSettings
    {directory : Directory}
    {path name : String}
    {format : SettingsFormat}
    (named : directory.nameToWrite path = .ok name)
    (chosen : SettingsFormat.ofPath path = .ok format)
    (valid : ValidSettings) :
    ∃ saved, directory.saveSettings path valid.settings = .ok saved := by
  rw [directory.saveSettings_of_valid chosen, writeText, writeBytes, named]
  exact ⟨_, rfl⟩

/-- Saving the same settings under the same path again changes nothing. -/
theorem Directory.saveSettings_of_saveSettings
    {directory saved : Directory}
    {path : String}
    {settings : Settings}
    (succeeds : directory.saveSettings path settings = .ok saved) :
    saved.saveSettings path settings = .ok saved := by
  obtain ⟨faultless, format, chosen, written⟩ :=
    saveSettings_eq_ok_iff.mp succeeds
  exact saveSettings_eq_ok_iff.mpr
    ⟨faultless, format, chosen, writeBytes_of_writeBytes written⟩

/-- Whether settings can be saved under a path and are loaded from there as
they are, so that saving what has been loaded changes nothing. -/
def Directory.Keeps
    (directory : Directory)
    (path : String)
    (settings : Settings) : Prop :=
  ∃ saved, directory.saveSettings path settings = .ok saved ∧
    Settings.load saved.source path = .ok settings ∧
    saved.saveSettings path settings = .ok saved

/-- Settings are kept under every path that leads to a name that can be written
and stands for a format that reads back what it prints. -/
theorem Directory.keeps_of_parse_print
    {directory : Directory}
    {path name : String}
    {format : SettingsFormat}
    {settings : Settings}
    (named : directory.nameToWrite path = .ok name)
    (chosen : SettingsFormat.ofPath path = .ok format)
    (faultless : settings.fault? = none)
    (reads_back : format.parse (format.print settings) = .ok settings) :
    directory.Keeps path settings := by
  let valid : ValidSettings := ⟨settings, faultless⟩
  obtain ⟨saved, succeeds⟩ := exists_saveSettings named chosen valid
  have loads : Settings.load saved.source path = .ok valid.settings :=
    Settings.load_of_saveSettings chosen reads_back succeeds
  exact ⟨saved, succeeds, loads, saveSettings_of_saveSettings succeeds⟩

end Toolpath
