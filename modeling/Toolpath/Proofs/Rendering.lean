import Toolpath.Proofs.SessionAccount
import Toolpath.Proofs.Unsupported

/-!
# Plans and their rendering

What a program does is decided by its entities and by the choices about the
whole program.  This module takes it down as a plan, a sequence of commands that
names no word, no feed and no delay.  A machine's settings come in only when the
commands are rendered, each of them on its own.

The main statement compares all machines at once: under the same choices they
fail with the same error, or their programs are renderings of the same plan.
The words that switch the tool may be any text, and so the plan is not read off
the lines.  It is made of the calls as they are executed.
-/

namespace Toolpath

open Number (fixedText)

/-! ## Commands -/

/-- What a program tells a machine, apart from any machine's words. -/
inductive Command where
  | comment (text : String)
  | blank
  | rapid (target : Point)
  | cut (target : Point)
  | arc (target offset : Point)
  | circle (radius : Float)
  | engage
  | lift

namespace Command

/-- The lines that a command comes to on a machine.  Switching the tool takes a
second line if there is something to wait for. -/
def render (machine : MachineSettings) : Command → List ProgramLine
  | comment text => [.comment text]
  | blank => [.blank]
  | rapid target => [.rapid target]
  | cut target => [.cut target machine.feed]
  | arc target offset => [.arc target offset machine.feed]
  | circle radius => [.circle radius machine.feed]
  | engage =>
    .spindleOn machine.spindleOn
      :: (if 0 < machine.startDelay then [.dwell machine.startDelay] else [])
  | lift =>
    .spindleOff machine.spindleOff
      :: (if 0 < machine.stopDelay then [.dwell machine.stopDelay] else [])

/-- The same lines as they are written. -/
def texts (machine : MachineSettings) : Command → List String
  | comment text => ["(" ++ text ++ ")"]
  | blank => [""]
  | rapid target =>
    ["G0 X" ++ fixedText target.x ++ " Y" ++ fixedText target.y]
  | cut target =>
    ["G1 X" ++ fixedText target.x ++ " Y" ++ fixedText target.y
      ++ " F" ++ fixedText machine.feed]
  | arc target offset =>
    ["G3 X" ++ fixedText target.x ++ " Y" ++ fixedText target.y
      ++ " I" ++ fixedText offset.x ++ " J" ++ fixedText offset.y
      ++ " F" ++ fixedText machine.feed]
  | circle radius =>
    ["G3 I" ++ fixedText radius ++ " J0 F" ++ fixedText machine.feed]
  | engage =>
    machine.spindleOn
      :: (if 0 < machine.startDelay then
            ["G4 P" ++ toString machine.startDelay.toNat]
          else [])
  | lift =>
    machine.spindleOff
      :: (if 0 < machine.stopDelay then
            ["G4 P" ++ toString machine.stopDelay.toNat]
          else [])

/-- Whether a command moves the machine. -/
def isMove : Command → Bool
  | rapid _ | cut _ | arc _ _ | circle _ => true
  | comment _ | blank | engage | lift => false

theorem map_text_render (machine : MachineSettings) (command : Command) :
    (command.render machine).map ProgramLine.text =
      command.texts machine := by
  cases command with
  | engage =>
      rw [render, texts]
      split <;> rfl
  | lift =>
      rw [render, texts]
      split <;> rfl
  | comment text => rfl
  | blank => rfl
  | rapid target => rfl
  | cut target => rfl
  | arc target offset => rfl
  | circle radius => rfl

end Command

namespace ProgramLine

/-- The feed that a line is written with. -/
def feed? : ProgramLine → Option Float
  | cut _ feed | arc _ _ feed | circle _ feed => some feed
  | comment _ | blank | code _ | rapid _ | spindleOn _ | spindleOff _
  | dwell _ => none

/-- The move that a line makes, by what wrote it. -/
def move? : ProgramLine → Option Command
  | rapid target => some (.rapid target)
  | cut target _ => some (.cut target)
  | arc target offset _ => some (.arc target offset)
  | circle radius _ => some (.circle radius)
  | comment _ | blank | code _ | spindleOn _ | spindleOff _ | dwell _ => none

end ProgramLine

namespace Command

/-- No feed but that of the machine is found in a rendering. -/
theorem feed_of_mem_render
    {machine : MachineSettings}
    {command : Command}
    {feed : Float}
    (member : feed ∈ (command.render machine).filterMap ProgramLine.feed?) :
    feed = machine.feed := by
  cases command with
  | cut target => exact List.mem_singleton.mp member
  | arc target offset => exact List.mem_singleton.mp member
  | circle radius => exact List.mem_singleton.mp member
  | engage =>
      rw [render] at member
      split at member <;> cases member
  | lift =>
      rw [render] at member
      split at member <;> cases member
  | comment text => cases member
  | blank => cases member
  | rapid target => cases member

/-- The moves in a rendering are those of the commands. -/
theorem filterMap_move?_render
    (machine : MachineSettings)
    (command : Command) :
    (command.render machine).filterMap ProgramLine.move? =
      [command].filter isMove := by
  cases command with
  | engage =>
      rw [render]
      split <;> rfl
  | lift =>
      rw [render]
      split <;> rfl
  | comment text => rfl
  | blank => rfl
  | rapid target => rfl
  | cut target => rfl
  | arc target offset => rfl
  | circle radius => rfl

end Command

/-! ## Commands of calls -/

/-- The command that an executed call stands for.  A recorded position stands
for none. -/
def Call.command? : Call → Option Command
  | .comment text => some (.comment text)
  | .separator => some .blank
  | .go target => some (.rapid target)
  | .draw target => some (.cut target)
  | .arc target offset => some (.arc target offset)
  | .circle radius => some (.circle radius)
  | .start => some .engage
  | .stop => some .lift
  | .code _ | .setPosition _ => none

/-- The commands by which entities are carried out, from a tool that has not
been used. -/
def commandsOf (entities : List Entity) : List Command :=
  (Tool.initial.executeAll (callsOf entities)).filterMap Call.command?

/-- Calls that pass no code on write what their commands are rendered as. -/
theorem flatMap_lines_eq
    (machine : MachineSettings)
    {calls : List Call}
    (known : ∀ text, .code text ∉ calls) :
    calls.flatMap (Call.lines machine) =
      (calls.filterMap Call.command?).flatMap
        (Command.render machine) := by
  induction calls with
  | nil => rfl
  | cons call calls hypothesis =>
      have first :
          call.lines machine =
            call.command?.toList.flatMap (Command.render machine) := by
        cases call with
        | code text => exact (known text List.mem_cons_self).elim
        | start => exact (List.append_nil _).symm
        | stop => exact (List.append_nil _).symm
        | comment text => rfl
        | separator => rfl
        | go target => rfl
        | draw target => rfl
        | arc target offset => rfl
        | circle radius => rfl
        | setPosition position => rfl
      have later : ∀ text, .code text ∉ calls := by
        intro text member
        exact known text (List.mem_cons_of_mem call member)
      rw [List.flatMap_cons, first, hypothesis later]
      cases command : call.command? <;> simp [command]

/-- A tool that is told no code executes none. -/
theorem Tool.code_notMem_executeAll
    {calls : List Call}
    {text : String}
    (known : .code text ∉ calls)
    (tool : Tool) :
    .code text ∉ tool.executeAll calls := by
  intro member
  rcases mem_or_switches_of_mem_executeAll member with told | start | stop
  · exact known told
  · cases start
  · cases stop

/-- A body is the rendering of the commands of its entities. -/
theorem Settings.body_eq_flatMap_render
    (settings : Settings)
    (entities : List Entity) :
    (settings.programOf entities).body =
      (commandsOf entities).flatMap (Command.render settings.machine) := by
  have known :
      ∀ text, .code text ∉ Tool.initial.executeAll (callsOf entities) := by
    intro text
    exact Tool.code_notMem_executeAll (code_notMem_callsOf entities text) _
  rw [commandsOf, ← flatMap_lines_eq settings.machine known]
  exact Tool.writeAll_eq_flatMap_executeAll _ _ _

/-- Between two lines the tool is lifted and engaged, though no call asks for
it. -/
example (first second : Line) :
    commandsOf [.line first, .line second] =
      [ .comment first.label, .rapid first.start, .engage,
        .cut first.finish, .blank,
        .comment second.label, .lift, .rapid second.start, .engage,
        .cut second.finish, .blank ] :=
  rfl

/-! ## Plans -/

/-- What a compilation comes to, whatever the machine. -/
structure Plan where
  commands : List Command
  preamble : List ProgramLine
  emitted : Nat
  skipped : Nat
  position : Option Point

/-- A program that is a rendering of a plan on a machine. -/
structure Plan.Renders
    (plan : Plan)
    (machine : MachineSettings)
    (program : Program) :
    Prop where
  preamble : program.preamble = plan.preamble
  emitted : program.emitted = plan.emitted
  skipped : program.skipped = plan.skipped
  position : program.position = plan.position
  /-- The body holds the commands one by one. -/
  body : program.body = plan.commands.flatMap (Command.render machine)
  /-- The commands are written out with the words of the machine. -/
  text :
    program.body.map ProgramLine.text =
      plan.commands.flatMap (Command.texts machine)
  /-- Every line that takes a feed has that of the machine. -/
  feed :
    ∀ feed ∈ program.body.filterMap ProgramLine.feed?, feed = machine.feed
  /-- The moves are those of the plan, in its order. -/
  moves :
    program.body.filterMap ProgramLine.move? =
      plan.commands.filter Command.isMove

/-- The plan under which entities are carried out in the order given. -/
def Settings.planOf (settings : Settings) (entities : List Entity) :
    Plan where
  commands := commandsOf entities
  preamble := settings.preamble
  emitted := (settings.programOf entities).emitted
  skipped := (settings.programOf entities).skipped
  position := (settings.programOf entities).position

/-- The program of some entities is a rendering of their plan. -/
theorem Settings.renders_programOf
    (settings : Settings)
    (entities : List Entity) :
    (settings.planOf entities).Renders settings.machine
      (settings.programOf entities) := by
  have body := settings.body_eq_flatMap_render entities
  constructor
  case preamble => rfl
  case emitted => rfl
  case skipped => rfl
  case position => rfl
  case body => exact body
  case text =>
    rw [body, List.map_flatMap]
    simp only [Command.map_text_render]
    rfl
  case feed =>
    intro feed member
    rw [body, List.filterMap_flatMap] at member
    rcases List.mem_flatMap.mp member with ⟨command, -, given⟩
    exact Command.feed_of_mem_render given
  case moves =>
    rw [body, List.filterMap_flatMap]
    simp only [Command.filterMap_move?_render]
    rw [← List.filter_flatMap, List.flatMap_singleton']
    rfl

/-! ## All machines at once -/

/-- Settings that make the same choices about whole programs have the same
plans. -/
theorem Settings.planOf_congr
    {settings other : Settings}
    (same : settings.output = other.output)
    (entities : List Entity) :
    settings.planOf entities = other.planOf entities := by
  rw [planOf, planOf, preamble, preamble, same]
  rfl

theorem Settings.arrange_congr
    {settings other : Settings}
    (same : settings.output = other.output)
    (entities : List Entity) :
    settings.arrange entities = other.arrange entities := by
  rw [arrange, arrange, same]

theorem Settings.admits_congr
    {settings other : Settings}
    (same : settings.output = other.output)
    (entity : Entity) :
    settings.admits entity = other.admits entity := by
  rw [admits, admits, same]

/-- Where not every entity is admitted, there is a first that is not. -/
theorem Settings.exists_first_refused
    {settings : Settings}
    {entities : List Entity}
    (refuses : ¬ ∀ entity ∈ entities, settings.admits entity = true) :
    ∃ before entity after cause,
      entities = before ++ entity :: after ∧
        (∀ other ∈ before, settings.admits other = true) ∧
        settings.admits entity = false ∧
        entity.calls? = .error cause := by
  cases first : entities.find? (!settings.admits ·) with
  | none =>
      rw [List.find?_eq_none] at first
      apply (refuses _).elim
      intro entity member
      simpa using first entity member
  | some entity =>
      rcases List.find?_eq_some_iff_append.mp first with
        ⟨refused, before, after, split, admitted⟩
      rw [Bool.not_eq_true'] at refused
      cases outcome : entity.calls? with
      | ok calls =>
          -- What can be cut is admitted by any settings.
          simp [admits, Entity.isCuttable, outcome] at refused
      | error cause =>
          refine ⟨before, entity, after, cause, split, ?_, refused, outcome⟩
          intro other member
          simpa using admitted other member

/--
Among programs with the same choices about the whole, a machine decides nothing
but the rendering.

Compilation fails with the same error under all valid settings that make these
choices, or there is one plan that it renders under all of them.
-/
theorem machine_only_renders
    (output : OutputSettings)
    (entities : List Entity) :
    (∃ fault, ∀ valid : ValidSettings, valid.settings.output = output →
      valid.compile entities = .error fault) ∨
    ∃ plan : Plan, ∀ valid : ValidSettings,
      valid.settings.output = output →
      ∃ program, valid.compile entities = .ok program ∧
        plan.Renders valid.settings.machine program := by
  -- Any machine will do to see what is arranged and what is admitted.
  let reference : Settings := { output }
  by_cases admitted :
      ∀ entity ∈ reference.arrange entities, reference.admits entity = true
  case pos =>
    right
    refine ⟨reference.planOf (reference.arrange entities), ?_⟩
    intro valid chosen
    have same : valid.settings.output = reference.output := chosen
    refine ⟨valid.settings.programOf (reference.arrange entities), ?_, ?_⟩
    · rw [ValidSettings.compile_eq_ok_iff,
        Settings.arrange_congr same entities]
      refine ⟨?_, rfl⟩
      intro entity member
      rw [Settings.admits_congr same]
      exact admitted entity member
    · rw [← Settings.planOf_congr same]
      exact valid.settings.renders_programOf _
  case neg =>
    left
    rcases Settings.exists_first_refused admitted with
      ⟨before, entity, after, cause, arranged, first, refused, fails⟩
    refine ⟨.entity before.length entity.label cause, ?_⟩
    intro valid chosen
    have same : valid.settings.output = reference.output := chosen
    have arrangedHere :
        valid.settings.arrange entities = before ++ entity :: after := by
      rw [Settings.arrange_congr same, arranged]
    have admittedHere :
        ∀ other ∈ before, valid.settings.admits other = true := by
      intro other member
      rw [Settings.admits_congr same]
      exact first other member
    have refusedHere : valid.settings.admits entity = false := by
      rw [Settings.admits_congr same]
      exact refused
    exact ValidSettings.compile_of_refused arrangedHere admittedHere
      refusedHere fails

/-- The same choices on a machine with the usual words and without waits. -/
def Sample.usualMachine : ValidSettings where
  settings := { output := Sample.settings.settings.output }
  faultless := by decide

/-- Two machines render one plan of the drawing. -/
theorem sample_machine_only_renders :
    ∃ (plan : Plan) (first second : Program),
      Sample.settings.compile Sample.drawing = .ok first ∧
        Sample.usualMachine.compile Sample.drawing = .ok second ∧
        plan.Renders Sample.settings.settings.machine first ∧
        plan.Renders Sample.usualMachine.settings.machine second := by
  rcases machine_only_renders Sample.settings.settings.output
    Sample.drawing with ⟨fault, fails⟩ | ⟨plan, renders⟩
  · have failed := fails Sample.settings rfl
    cases failed
  · rcases renders Sample.settings rfl with ⟨first, compiled, rendered⟩
    rcases renders Sample.usualMachine rfl with
      ⟨second, compiledToo, renderedToo⟩
    exact ⟨plan, first, second, compiled, compiledToo, rendered,
      renderedToo⟩

end Toolpath
