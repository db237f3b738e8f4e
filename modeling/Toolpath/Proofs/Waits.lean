import Toolpath.Proofs.ToolDiscipline

/-!
# Waits

Settings may ask for a wait whenever the tool has been engaged, and for another
one whenever it has been lifted.  The tool writes each of them at once after the
word that switches it, so that no cut and no move can come in between.

The postscript lifts the tool with a word of its own, and no wait is written
after that one.  It makes a difference only where a move home follows.  So the
waits are kept in every program that is compiled without a home, or without a
wait after lifting, and in no other.
-/

namespace Toolpath

/-! ## Waits in a list of lines -/

/-- Between a line of one use and the next line of another there is a wait. -/
def WaitsBetween
    (opens closes : ToolUse)
    (milliseconds : UInt32)
    (lines : List ProgramLine) :
    Prop :=
  ∀ before first between next after,
    lines = before ++ first :: (between ++ next :: after) →
    first.toolUse = opens →
    next.toolUse = closes →
    (∀ line ∈ between, line.toolUse ≠ closes) →
    .dwell milliseconds ∈ between

/-- Every line of a given use is followed at once by a wait. -/
def FollowedByWait
    (use : ToolUse)
    (milliseconds : UInt32)
    (lines : List ProgramLine) :
    Prop :=
  ∀ before line after, lines = before ++ line :: after →
    line.toolUse = use →
    ∃ later, after = .dwell milliseconds :: later

/-- The waits that a machine needs: one between an engagement and the next cut,
and one between a lift and the next rapid move, unless there is nothing to wait
for. -/
structure Program.RespectsDelays
    (program : Program)
    (machine : MachineSettings) :
    Prop where
  after_engaging :
    0 < machine.startDelay →
      WaitsBetween .engage .cut machine.startDelay program.lines
  after_lifting :
    0 < machine.stopDelay →
      WaitsBetween .lift .rapid machine.stopDelay program.lines

section FollowedByWait

variable {use closes : ToolUse} {milliseconds : UInt32}

/-- Nothing has to follow lines of other uses. -/
theorem followedByWait_of_absent
    {lines : List ProgramLine}
    (absent : ∀ line ∈ lines, line.toolUse ≠ use) :
    FollowedByWait use milliseconds lines := by
  intro before line after split used
  have member : line ∈ lines := by
    simp [split]
  exact (absent line member used).elim

theorem FollowedByWait.append
    {first second : List ProgramLine}
    (firstWaits : FollowedByWait use milliseconds first)
    (secondWaits : FollowedByWait use milliseconds second) :
    FollowedByWait use milliseconds (first ++ second) := by
  intro before line after split used
  rcases append_eq_append_cons_iff.mp split with
    ⟨middle, isFirst, isAfter⟩ | ⟨earlier, isBefore, isSecond⟩
  · rcases firstWaits before line middle isFirst used with ⟨later, waits⟩
    subst waits
    exact ⟨later ++ second, isAfter⟩
  · exact secondWaits earlier line after isSecond used

/-- The wait comes before whatever else follows, a cut or a move for
example. -/
theorem FollowedByWait.waitsBetween_append
    {first second : List ProgramLine}
    (waits : FollowedByWait use milliseconds first)
    (moving : closes ≠ .neutral)
    (absent : ∀ line ∈ second, line.toolUse ≠ closes) :
    WaitsBetween use closes milliseconds (first ++ second) := by
  intro before opening between next after split opens isNext _
  rcases append_eq_append_cons_iff.mp split with
    ⟨middle, isFirst, isAfter⟩ | ⟨earlier, -, isSecond⟩
  · rcases waits before opening middle isFirst opens with ⟨later, wait⟩
    subst wait
    -- What follows begins with the wait, which is not the next line of note.
    cases between with
    | nil =>
        have same : next = .dwell milliseconds :=
          (List.cons.inj isAfter).1
        subst same
        exact (moving isNext.symm).elim
    | cons line between =>
        have same : line = .dwell milliseconds :=
          (List.cons.inj isAfter).1
        subst same
        exact List.mem_cons_self
  · have member : next ∈ second := by
      simp [isSecond]
    exact (absent next member isNext).elim

end FollowedByWait

/-! ## Waits that the tool writes -/

/-- How long a machine waits after a use of its tool. -/
def MachineSettings.delayAfter (machine : MachineSettings) :
    ToolUse → UInt32
  | .engage => machine.startDelay
  | .lift => machine.stopDelay
  | .rapid | .cut | .neutral => 0

/-- Whatever a line does, the wait after it comes at once. -/
theorem followedByWait_cons_dwellLines
    {use : ToolUse}
    {milliseconds : UInt32}
    (switches : use ≠ .neutral)
    (delayed : 0 < milliseconds)
    (first : ProgramLine) :
    FollowedByWait use milliseconds (first :: dwellLines milliseconds) := by
  intro before line after split used
  rw [dwellLines, if_pos delayed] at split
  rcases List.cons_eq_append_iff.mp split with
    ⟨nothing, isRest⟩ | ⟨earlier, -, isRest⟩
  · exact ⟨[], (List.cons.inj isRest).2⟩
  · have member : line ∈ [ProgramLine.dwell milliseconds] := by
      simp [isRest]
    have same := List.mem_singleton.mp member
    subst same
    exact (switches used.symm).elim

namespace Tool

variable (machine : MachineSettings) {use : ToolUse}

theorem followedByWait_engageLines
    (delayed : 0 < machine.delayAfter use) :
    FollowedByWait use (machine.delayAfter use) machine.engageLines := by
  cases use with
  | engage =>
      exact followedByWait_cons_dwellLines (by simp) delayed _
  | lift =>
      apply followedByWait_of_absent
      simp [MachineSettings.engageLines, dwellLines, ProgramLine.toolUse]
  | rapid => cases delayed
  | cut => cases delayed
  | neutral => cases delayed

theorem followedByWait_liftLines
    (delayed : 0 < machine.delayAfter use) :
    FollowedByWait use (machine.delayAfter use) machine.liftLines := by
  cases use with
  | lift =>
      exact followedByWait_cons_dwellLines (by simp) delayed _
  | engage =>
      apply followedByWait_of_absent
      simp [MachineSettings.liftLines, dwellLines, ProgramLine.toolUse]
  | rapid => cases delayed
  | cut => cases delayed
  | neutral => cases delayed

/-- A line that does not switch the tool is followed by no wait and needs
none. -/
theorem followedByWait_steady
    (delayed : 0 < machine.delayAfter use)
    {line : ProgramLine}
    (steady : line.toolUse.isToggle = false) :
    FollowedByWait use (machine.delayAfter use) [line] := by
  apply followedByWait_of_absent
  intro other member used
  have same := List.mem_singleton.mp member
  subst same
  subst used
  cases isUse : other.toolUse <;>
    simp_all [MachineSettings.delayAfter, ToolUse.isToggle]

/-- Every call writes the waits that it needs. -/
theorem followedByWait_write
    (delayed : 0 < machine.delayAfter use)
    (tool : Tool)
    (call : Call) :
    FollowedByWait use (machine.delayAfter use)
      (tool.write machine call) := by
  have nothing : FollowedByWait use (machine.delayAfter use) [] :=
    followedByWait_of_absent (by simp)
  have engages := followedByWait_engageLines machine delayed
  have lifts := followedByWait_liftLines machine delayed
  cases call with
  | go target =>
      have goes :
          FollowedByWait use (machine.delayAfter use) [.rapid target] :=
        followedByWait_steady machine delayed rfl
      cases engaged : tool.engaged with
      | false => simpa [write, engaged] using goes
      | true => simpa [write, engaged] using lifts.append goes
  | draw target =>
      have cuts :
          FollowedByWait use (machine.delayAfter use)
            [.cut target machine.feed] :=
        followedByWait_steady machine delayed rfl
      cases engaged : tool.engaged with
      | false => simpa [write, engaged] using engages.append cuts
      | true => simpa [write, engaged] using cuts
  | start => exact engages
  | stop => exact lifts
  | setPosition position => exact nothing
  | comment text => exact followedByWait_steady machine delayed rfl
  | separator => exact followedByWait_steady machine delayed rfl
  | code text => exact followedByWait_steady machine delayed rfl
  | arc target offset => exact followedByWait_steady machine delayed rfl
  | circle radius => exact followedByWait_steady machine delayed rfl

theorem followedByWait_writeAll
    (delayed : 0 < machine.delayAfter use)
    (tool : Tool)
    (calls : List Call) :
    FollowedByWait use (machine.delayAfter use)
      (tool.writeAll machine calls) := by
  induction calls generalizing tool with
  | nil => exact followedByWait_of_absent (by simp [writeAll])
  | cons call calls hypothesis =>
      exact (followedByWait_write machine delayed tool call).append
        (hypothesis (tool.after call))

end Tool

/-! ## Whole programs -/

namespace Settings

variable (settings : Settings)

/-- Nothing has to be waited for in a preamble. -/
theorem followedByWait_preamble
    {use : ToolUse}
    (switches : use ≠ .neutral)
    (milliseconds : UInt32) :
    FollowedByWait use milliseconds settings.preamble := by
  apply followedByWait_of_absent
  simp [preamble, ProgramLine.toolUse, switches.symm]

theorem followedByWait_body
    {use : ToolUse}
    (delayed : 0 < settings.machine.delayAfter use)
    (entities : List Entity) :
    FollowedByWait use (settings.machine.delayAfter use)
      (settings.programOf entities).body :=
  Tool.followedByWait_writeAll settings.machine delayed Tool.initial _

/-- Up to the postscript, every switch of the tool is followed at once by its
wait. -/
theorem followedByWait_beginning
    (use : ToolUse)
    (delayed : 0 < settings.machine.delayAfter use)
    (entities : List Entity) :
    FollowedByWait use (settings.machine.delayAfter use)
      ((settings.programOf entities).preamble
        ++ (settings.programOf entities).body) := by
  have switches : use ≠ .neutral := by
    rintro rfl
    cases delayed
  exact (settings.followedByWait_preamble switches _).append
    (settings.followedByWait_body delayed entities)

/-- The postscript cuts nothing, and it moves only where there is a home. -/
theorem toolUse_of_mem_postscript
    {line : ProgramLine}
    (member : line ∈ settings.postscript) :
    line.toolUse ≠ .cut ∧
      (settings.output.home = none → line.toolUse ≠ .rapid) := by
  cases home : settings.output.home <;>
    simp only [postscript, home, List.mem_append, List.mem_cons,
      List.not_mem_nil, or_false] at member
  · rcases member with (rfl | rfl | rfl) | rfl <;>
      simp [ProgramLine.toolUse]
  · rcases member with ((rfl | rfl | rfl) | rfl) | rfl <;>
      simp [ProgramLine.toolUse]

/-- The move home follows the word that lifts the tool without a wait. -/
theorem not_waitsBetween_of_home
    {home : Point}
    (given : settings.output.home = some home)
    (milliseconds : UInt32)
    (entities : List Entity) :
    ¬ WaitsBetween .lift .rapid milliseconds
      (settings.programOf entities).lines := by
  intro waits
  have split :
      (settings.programOf entities).lines =
        (settings.preamble ++ (settings.programOf entities).body
            ++ [.blank, .comment "end of program"])
          ++ .spindleOff settings.machine.spindleOff
          :: ([] ++ .rapid home :: [.code "M2"]) := by
    simp [Program.lines, programOf, postscript, given]
  have wait := waits _ _ _ _ _ split rfl rfl (by simp)
  cases wait

end Settings

/--
A program waits where its machine needs it exactly if no wait is asked for after
lifting, or there is no home to move to.

All other waits are kept: before every cut, and after every lift that comes
before the postscript.
-/
theorem delays_respected_iff
    (valid : ValidSettings)
    (entities : List Entity)
    (program : Program)
    (compiled : valid.compile entities = .ok program) :
    (program.RespectsDelays valid.settings.machine ↔
      valid.settings.machine.stopDelay = 0 ∨
        valid.settings.output.home = none) ∧
    (0 < valid.settings.machine.startDelay →
      WaitsBetween .engage .cut valid.settings.machine.startDelay
        program.lines) ∧
    (0 < valid.settings.machine.stopDelay →
      FollowedByWait .lift valid.settings.machine.stopDelay
        (program.preamble ++ program.body)) := by
  obtain ⟨-, rfl⟩ := ValidSettings.compile_eq_ok_iff.mp compiled
  generalize valid.settings.arrange entities = drawn
  have engaging :
      0 < valid.settings.machine.startDelay →
        WaitsBetween .engage .cut valid.settings.machine.startDelay
          (valid.settings.programOf drawn).lines := by
    intro delayed
    have waits :=
      valid.settings.followedByWait_beginning .engage delayed drawn
    apply waits.waitsBetween_append (by simp)
    intro line member
    exact (valid.settings.toolUse_of_mem_postscript member).1
  have lifting :
      0 < valid.settings.machine.stopDelay →
        FollowedByWait .lift valid.settings.machine.stopDelay
          ((valid.settings.programOf drawn).preamble
            ++ (valid.settings.programOf drawn).body) := by
    intro delayed
    exact valid.settings.followedByWait_beginning .lift delayed drawn
  refine ⟨?_, engaging, lifting⟩
  constructor
  · intro respects
    rcases Option.eq_none_or_eq_some valid.settings.output.home with
      homeless | ⟨home, given⟩
    · exact Or.inr homeless
    · left
      by_contra delayed
      have waits :=
        respects.after_lifting (UInt32.pos_iff_ne_zero.mpr delayed)
      exact valid.settings.not_waitsBetween_of_home given _ drawn waits
  · intro unneeded
    constructor
    case after_engaging => exact engaging
    case after_lifting =>
      intro delayed
      rcases unneeded with undelayed | homeless
      · rw [undelayed] at delayed
        cases delayed
      · apply (lifting delayed).waitsBetween_append (by simp)
        intro line member
        exact (valid.settings.toolUse_of_mem_postscript member).2 homeless

/-- A drawing whose waits are kept until the tool is sent home. -/
theorem sample_delays :
    ∃ program,
      Sample.settings.compile Sample.drawing = .ok program ∧
        ¬ program.RespectsDelays Sample.settings.settings.machine ∧
        WaitsBetween .engage .cut 250 program.lines ∧
        FollowedByWait .lift 100 (program.preamble ++ program.body) := by
  rcases delays_respected_iff Sample.settings Sample.drawing _ rfl with
    ⟨respected, engaging, lifting⟩
  refine ⟨_, rfl, ?_, engaging (by decide), lifting (by decide)⟩
  intro respects
  rcases respected.mp respects with undelayed | homeless
  · cases undelayed
  · cases homeless

/-- After the word that lifts the tool at the end of a single line, the move
home comes at once, although a wait of 100 milliseconds is asked for. -/
theorem home_move_without_wait :
    ∃ program,
      Sample.settings.compile [Sample.line] = .ok program ∧
        program.postscript.map ProgramLine.text =
          ["", "(end of program)", "M5", "G0 X1.00 Y1.00", "M2"] ∧
        Sample.settings.settings.machine.stopDelay = 100 ∧
        ¬ program.RespectsDelays Sample.settings.settings.machine := by
  refine ⟨_, rfl, ?_, rfl, ?_⟩
  · decide +kernel
  · intro respects
    have waits := respects.after_lifting (by decide)
    exact Sample.settings.settings.not_waitsBetween_of_home rfl _
      [Sample.line] waits

end Toolpath
