import Toolpath.Program.Compile
import Toolpath.Proofs.StoredSettings

/-!
# Runs on stored settings

Files are written, and settings are loaded and saved, in any order.  Here these
are actions on a directory that may fail at any point and keep whatever they
have changed by then, so that it matters in which order an action does its
work.

Saving looks for everything that can be wrong before it touches a file, and
loading hands settings out only when nothing is wrong with them.  The main
statement follows a run step by step: a step that fails or that loads settings
leaves the directory as it was, a step that writes changes one file, and no
document leads to settings that are not valid.
-/

namespace Toolpath

/-! ## Actions -/

/-- An action on a directory.  When it fails, the directory stays as the action
has left it by then. -/
abbrev StorageAction : Type → Type := ExceptT StorageError (StateM Directory)

namespace StorageAction

variable {Result Other : Type}

/-- What an action answers in a directory, and the directory after it. -/
def carryOut
    (action : StorageAction Result)
    (directory : Directory) :
    Except StorageError Result × Directory :=
  action.run directory

/-- An action that looks at no directory. -/
def ofExcept (outcome : Except StorageError Result) : StorageAction Result :=
  MonadExcept.ofExcept outcome

def readText (path : String) : StorageAction String := do
  let directory ← get
  ofExcept ((directory.source.text path).mapError .file)

def writeBytes (path : String) (content : ByteArray) :
    StorageAction Unit := do
  let directory ← get
  let changed ←
    ofExcept ((directory.writeBytes path content).mapError .file)
  set changed

@[simp]
theorem carryOut_pure (result : Result) (directory : Directory) :
    carryOut (pure result) directory = (.ok result, directory) :=
  rfl

/-- What comes after an action is done in the directory that the action leads
to, unless the action fails. -/
@[simp]
theorem carryOut_bind
    (action : StorageAction Result)
    (next : Result → StorageAction Other)
    (directory : Directory) :
    carryOut (action >>= next) directory =
      match carryOut action directory with
      | (.ok result, changed) => carryOut (next result) changed
      | (.error cause, changed) => (.error cause, changed) := by
  unfold carryOut ExceptT.run
  simp only [bind, ExceptT.bind, ExceptT.mk, StateT.bind, ExceptT.bindCont]
  rcases action directory with ⟨outcome, changed⟩
  cases outcome <;> rfl

@[simp]
theorem carryOut_get (directory : Directory) :
    carryOut get directory = (.ok directory, directory) :=
  rfl

@[simp]
theorem carryOut_set (changed directory : Directory) :
    carryOut (set changed) directory = (.ok (), changed) :=
  rfl

@[simp]
theorem carryOut_ofExcept
    (outcome : Except StorageError Result)
    (directory : Directory) :
    carryOut (ofExcept outcome) directory = (outcome, directory) := by
  cases outcome <;> rfl

/-- Reading a file changes nothing. -/
theorem carryOut_readText (path : String) (directory : Directory) :
    carryOut (readText path) directory =
      ((directory.source.text path).mapError .file, directory) := by
  simp [readText]

/-- Writing a file changes nothing if it fails. -/
theorem carryOut_writeBytes
    (path : String)
    (content : ByteArray)
    (directory : Directory) :
    carryOut (writeBytes path content) directory =
      match directory.writeBytes path content with
      | .ok changed => (.ok (), changed)
      | .error cause => (.error (.file cause), directory) := by
  cases outcome : directory.writeBytes path content <;>
    simp [writeBytes, outcome, Except.mapError]

end StorageAction

namespace Settings

/-- Loads settings: the file is read, and what it says is validated before it
is handed out. -/
def loadFrom (path : String) : StorageAction Settings := do
  let text ← StorageAction.readText path
  let format ←
    .ofExcept ((SettingsFormat.ofPath path).mapError .settings)
  let settings ← .ofExcept (format.parse text)
  let valid ← .ofExcept ((ValidSettings.of? settings).mapError .settings)
  return valid.settings

/-- Saves settings: they are validated, the format is chosen, and the file is
written last. -/
def saveTo (settings : Settings) (path : String) : StorageAction Unit := do
  let valid ← .ofExcept ((ValidSettings.of? settings).mapError .settings)
  let format ←
    .ofExcept ((SettingsFormat.ofPath path).mapError .settings)
  StorageAction.writeBytes path (format.print valid.settings).toUTF8

/-- The action that loads settings answers what is loaded from the files of the
directory, and changes none of them. -/
theorem carryOut_loadFrom (path : String) (directory : Directory) :
    (loadFrom path).carryOut directory =
      (load directory.source path, directory) := by
  simp only [loadFrom, load, StorageAction.carryOut_bind,
    StorageAction.carryOut_readText, StorageAction.carryOut_ofExcept,
    StorageAction.carryOut_pure]
  cases (directory.source.text path).mapError StorageError.file with
  | error cause => rfl
  | ok text =>
      cases (SettingsFormat.ofPath path).mapError StorageError.settings with
      | error cause => rfl
      | ok format =>
          cases parsed : format.parse text with
          | error cause => simp [bind, Except.bind, parsed]
          | ok settings =>
              simp only [bind, Except.bind, parsed]
              cases (ValidSettings.of? settings).mapError
                  StorageError.settings <;>
                rfl

/-- The action that saves settings does what saving them means for the files of
the directory, and changes none of them if it fails. -/
theorem carryOut_saveTo
    (settings : Settings)
    (path : String)
    (directory : Directory) :
    (settings.saveTo path).carryOut directory =
      match directory.saveSettings path settings with
      | .ok changed => (.ok (), changed)
      | .error cause => (.error cause, directory) := by
  simp only [saveTo, Directory.saveSettings, StorageAction.carryOut_bind,
    StorageAction.carryOut_writeBytes, StorageAction.carryOut_ofExcept]
  cases (ValidSettings.of? settings).mapError StorageError.settings with
  | error cause => rfl
  | ok valid =>
      cases (SettingsFormat.ofPath path).mapError StorageError.settings with
      | error cause => rfl
      | ok format =>
          simp only [bind, Except.bind, Directory.writeText]
          cases directory.writeBytes path
              (format.print valid.settings).toUTF8 <;>
            rfl

end Settings

/-! ## Steps and runs -/

/-- A step of a run on a directory. -/
inductive StorageStep where
  | write (path : String) (content : ByteArray)
  | load (path : String)
  | save (path : String) (settings : Settings)

/-- What a step does; only loading answers settings. -/
def StorageStep.action : StorageStep → StorageAction (Option Settings)
  | write path content => do
    StorageAction.writeBytes path content
    return none
  | load path => do
    let settings ← Settings.loadFrom path
    return some settings
  | save path settings => do
    settings.saveTo path
    return none

/-- A step that has been taken, with the directory before it, its answer, and
the directory after it. -/
structure Transition where
  before : Directory
  step : StorageStep
  answer : Except StorageError (Option Settings)
  after : Directory

/-- The step as it is taken in a directory. -/
def StorageStep.transition
    (step : StorageStep)
    (directory : Directory) :
    Transition where
  before := directory
  step := step
  answer := (step.action.carryOut directory).1
  after := (step.action.carryOut directory).2

namespace Directory

/-- The steps of a run, taken one after the other, whether they fail or not. -/
def history (directory : Directory) : List StorageStep → List Transition
  | [] => []
  | step :: steps =>
    step.transition directory
      :: (step.transition directory).after.history steps

/-- The directory that a run leads to. -/
def afterAll (directory : Directory) : List StorageStep → Directory
  | [] => directory
  | step :: steps => (step.transition directory).after.afterAll steps

end Directory

/-- The name of the file that a step has written. -/
def Transition.written? (transition : Transition) : Option String :=
  match transition.step, transition.answer with
  | .write path _, .ok _ | .save path _, .ok _ =>
    (transition.before.nameToWrite path).toOption
  | _, _ => none

/-- Settings that are taken wherever valid ones are asked for. -/
structure Settings.Accepted (settings : Settings) : Prop where
  faultless : settings.fault? = none
  /-- They can be compiled under: only an entity can make that fail. -/
  compiled :
    ∀ entities fault, settings.compile entities ≠ .error (.settings fault)
  /-- They can be saved in either format: only the file can make that fail. -/
  saved :
    ∀ (directory : Directory) path format,
      SettingsFormat.ofPath path = .ok format →
      directory.saveSettings path settings =
        (directory.writeText path (format.print settings)).mapError .file

/-- What holds of every step that is taken. -/
structure Transition.Orderly (transition : Transition) : Prop where
  /-- Loading changes nothing. -/
  load_keeps :
    ∀ path, transition.step = .load path →
      transition.after = transition.before
  /-- A step that fails, for whatever cause, changes nothing. -/
  failure_keeps :
    ∀ cause, transition.answer = .error cause →
      transition.after = transition.before
  /-- A successful step changes no file but the one that it writes. -/
  others_kept :
    ∀ other, transition.written? ≠ some other →
      transition.after.content? other = transition.before.content? other
  /-- Saving writes the settings to the file that the path names, in the format
  of its extension. -/
  save_writes :
    ∀ path settings answer, transition.step = .save path settings →
      transition.answer = .ok answer →
      ∃ name format,
        transition.before.nameToWrite path = .ok name ∧
        transition.written? = some name ∧
        SettingsFormat.ofPath path = .ok format ∧
        transition.after.content? name =
          some (format.print settings).toUTF8
  /-- Whatever the document says, settings that are loaded are valid. -/
  loaded_accepted :
    ∀ settings, transition.answer = .ok (some settings) →
      settings.Accepted

/-- Once it has begun, a compilation finds fault with nothing but entities. -/
theorem emitFrom_ne_settings
    (settings : Settings)
    (tool : Tool)
    (index : Nat)
    (entities : List Entity)
    (fault : SettingsError) :
    emitFrom settings tool index entities ≠ .error (.settings fault) := by
  induction entities generalizing tool index with
  | nil => simp [emitFrom]
  | cons entity entities hypothesis =>
      intro failed
      simp only [emitFrom] at failed
      split at failed
      next calls outcome =>
        split at failed
        next => cases failed
        next cause later =>
          cases failed
          exact hypothesis _ _ later
      next cause outcome =>
        split at failed
        next =>
          split at failed
          next => cases failed
          next cause later =>
            cases failed
            exact hypothesis _ _ later
        next => cases failed

/-- Valid settings are accepted. -/
theorem ValidSettings.accepted (valid : ValidSettings) :
    valid.settings.Accepted where
  faultless := valid.faultless
  compiled := by
    intro entities fault failed
    rw [Settings.compile, of?_settings] at failed
    simp only [ValidSettings.compile] at failed
    split at failed
    next => cases failed
    next cause refused =>
      cases failed
      exact emitFrom_ne_settings _ _ _ _ _ refused
  saved := by
    intro directory path format chosen
    exact directory.saveSettings_of_valid chosen valid

/-- Settings are loaded only after they have been found valid. -/
theorem Settings.accepted_of_load
    {source : FileSource}
    {path : String}
    {settings : Settings}
    (loaded : Settings.load source path = .ok settings) :
    settings.Accepted := by
  have found : ∃ valid : ValidSettings, settings = valid.settings := by
    simp only [load, bind, Except.bind] at loaded
    repeat' split at loaded
    all_goals cases loaded
    exact ⟨_, rfl⟩
  obtain ⟨valid, rfl⟩ := found
  exact valid.accepted

/-- What is left of a directory when one of its files has been written. -/
theorem Directory.keeps_others_of_writeBytes
    {directory changed : Directory}
    {path : String}
    {content : ByteArray}
    (written : directory.writeBytes path content = .ok changed) :
    ∃ name, directory.nameToWrite path = .ok name ∧
      changed.content? name = some content ∧
      ∀ other, name ≠ other →
        changed.content? other = directory.content? other := by
  obtain ⟨name, named, rfl⟩ := Directory.writeBytes_eq_ok_iff.mp written
  refine ⟨name, named, ?_, ?_⟩
  · rw [directory.content?_replaceFile, if_pos rfl]
  · intro other differs
    rw [directory.content?_replaceFile, if_neg differs]

namespace StorageStep

theorem transition_load (path : String) (directory : Directory) :
    (load path).transition directory =
      ⟨directory, .load path, (Settings.load directory.source path).map some,
        directory⟩ := by
  simp only [transition, action, StorageAction.carryOut_bind,
    Settings.carryOut_loadFrom]
  cases Settings.load directory.source path <;> rfl

theorem transition_write
    (path : String)
    (content : ByteArray)
    (directory : Directory) :
    (write path content).transition directory =
      match directory.writeBytes path content with
      | .ok changed =>
        ⟨directory, .write path content, .ok none, changed⟩
      | .error cause =>
        ⟨directory, .write path content, .error (.file cause),
          directory⟩ := by
  simp only [transition, action, StorageAction.carryOut_bind,
    StorageAction.carryOut_writeBytes]
  cases directory.writeBytes path content <;> rfl

theorem transition_save
    (path : String)
    (settings : Settings)
    (directory : Directory) :
    (save path settings).transition directory =
      match directory.saveSettings path settings with
      | .ok changed =>
        ⟨directory, .save path settings, .ok none, changed⟩
      | .error cause =>
        ⟨directory, .save path settings, .error cause, directory⟩ := by
  simp only [transition, action, StorageAction.carryOut_bind,
    Settings.carryOut_saveTo]
  cases directory.saveSettings path settings <;> rfl

/-- Loading is orderly: it hands out valid settings and touches no file. -/
theorem orderly_load (path : String) (directory : Directory) :
    ((load path).transition directory).Orderly := by
  rw [transition_load]
  constructor
  case load_keeps => exact fun _ _ => rfl
  case failure_keeps => exact fun _ _ => rfl
  case others_kept => exact fun _ _ => rfl
  case save_writes => exact fun _ _ _ saves => nomatch saves
  case loaded_accepted =>
    intro settings answered
    cases loaded : Settings.load directory.source path with
    | error cause => simp [loaded, Except.map] at answered
    | ok found =>
        obtain rfl : found = settings := by
          simpa [loaded, Except.map] using answered
        exact Settings.accepted_of_load loaded

/-- Writing is orderly: it changes the file that the path leads to. -/
theorem orderly_write
    (path : String)
    (content : ByteArray)
    (directory : Directory) :
    ((write path content).transition directory).Orderly := by
  rw [transition_write]
  cases written : directory.writeBytes path content with
  | error cause =>
      constructor
      case load_keeps => exact fun _ _ => rfl
      case failure_keeps => exact fun _ _ => rfl
      case others_kept => exact fun _ _ => rfl
      case save_writes => exact fun _ _ _ saves => nomatch saves
      case loaded_accepted => exact fun _ answered => nomatch answered
  | ok changed =>
      obtain ⟨name, named, -, kept⟩ :=
        Directory.keeps_others_of_writeBytes written
      constructor
      case load_keeps => exact fun _ loads => nomatch loads
      case failure_keeps => exact fun _ failed => nomatch failed
      case others_kept =>
        intro other unwritten
        apply kept
        rintro rfl
        simp [Transition.written?, named, Except.toOption] at unwritten
      case save_writes => exact fun _ _ _ saves => nomatch saves
      case loaded_accepted => exact fun _ answered => nomatch answered

/-- Saving is orderly: whatever can fail does so before the file is
written. -/
theorem orderly_save
    (path : String)
    (settings : Settings)
    (directory : Directory) :
    ((save path settings).transition directory).Orderly := by
  rw [transition_save]
  cases saved : directory.saveSettings path settings with
  | error cause =>
      constructor
      case load_keeps => exact fun _ _ => rfl
      case failure_keeps => exact fun _ _ => rfl
      case others_kept => exact fun _ _ => rfl
      case save_writes => exact fun _ _ _ _ answered => nomatch answered
      case loaded_accepted => exact fun _ answered => nomatch answered
  | ok changed =>
      obtain ⟨-, format, chosen, written⟩ :=
        Directory.saveSettings_eq_ok_iff.mp saved
      obtain ⟨name, named, holds, kept⟩ :=
        Directory.keeps_others_of_writeBytes written
      constructor
      case load_keeps => exact fun _ loads => nomatch loads
      case failure_keeps => exact fun _ failed => nomatch failed
      case others_kept =>
        intro other unwritten
        apply kept
        rintro rfl
        simp [Transition.written?, named, Except.toOption] at unwritten
      case save_writes =>
        rintro path settings answer ⟨⟩ -
        refine ⟨name, format, named, ?_, chosen, holds⟩
        simp [Transition.written?, named, Except.toOption]
      case loaded_accepted => exact fun _ answered => nomatch answered

theorem orderly_transition (step : StorageStep) (directory : Directory) :
    (step.transition directory).Orderly := by
  cases step with
  | write path content => exact orderly_write path content directory
  | load path => exact orderly_load path directory
  | save path settings => exact orderly_save path settings directory

end StorageStep

/-- A file that no step of a run has written is as it was before the run. -/
theorem Directory.content?_afterAll
    {directory : Directory}
    {steps : List StorageStep}
    {name : String}
    (unwritten :
      ∀ transition ∈ directory.history steps,
        transition.written? ≠ some name) :
    (directory.afterAll steps).content? name = directory.content? name := by
  induction steps generalizing directory with
  | nil => rfl
  | cons step steps hypothesis =>
      rw [history, List.forall_mem_cons] at unwritten
      obtain ⟨here, later⟩ := unwritten
      rw [afterAll, hypothesis later]
      exact (step.orderly_transition directory).others_kept name here

/--
In any run on any directory every step is orderly, and in the end no file has
changed but those that a successful step has written.
-/
theorem storage_run_orderly
    (directory : Directory)
    (steps : List StorageStep) :
    (∀ transition ∈ directory.history steps, transition.Orderly) ∧
      ∀ name,
        (∀ transition ∈ directory.history steps,
          transition.written? ≠ some name) →
        (directory.afterAll steps).content? name =
          directory.content? name := by
  constructor
  · induction steps generalizing directory with
    | nil => simp [Directory.history]
    | cons step steps hypothesis =>
        rw [Directory.history, List.forall_mem_cons]
        exact ⟨step.orderly_transition directory, hypothesis _⟩
  · intro name unwritten
    exact Directory.content?_afterAll unwritten

namespace Sample

/-- A directory that holds a file of another purpose. -/
def directory : Directory := ⟨[("notes", "one".toUTF8)]⟩

/-- Writes a document without any field. -/
def writing : StorageStep := .write "plot.json" "[]".toUTF8

def written : Directory :=
  ⟨[("notes", "one".toUTF8), ("plot.json", "[]".toUTF8)]⟩

/-- The document is loaded, and saving is tried under a name of no format. -/
def storageSteps : List StorageStep :=
  [writing, .load "plot.json", .save "plot.yaml" {}]

def loading : Transition :=
  (StorageStep.load "plot.json").transition written

end Sample

/-- In the run, default settings are loaded in an orderly step, and the other
file stays as it was. -/
theorem sample_storage_run :
    Sample.loading ∈ Sample.directory.history Sample.storageSteps ∧
      Sample.loading.answer = .ok (some {}) ∧
      Sample.loading.Orderly ∧
      (Sample.directory.afterAll Sample.storageSteps).content? "notes" =
        some "one".toUTF8 := by
  have orderly := storage_run_orderly Sample.directory Sample.storageSteps
  have after :
      (Sample.writing.transition Sample.directory).after =
        Sample.written :=
    rfl
  have member :
      Sample.loading ∈ Sample.directory.history Sample.storageSteps := by
    rw [Sample.storageSteps, Directory.history, after]
    exact List.mem_cons_of_mem _ List.mem_cons_self
  have loaded :
      Settings.load Sample.written.source "plot.json" = .ok {} :=
    rfl
  refine ⟨member, ?_, orderly.1 _ member, ?_⟩
  · rw [Sample.loading, StorageStep.transition_load, loaded]
    rfl
  · rw [orderly.2 "notes" (by decide +kernel)]
    rfl

end Toolpath
