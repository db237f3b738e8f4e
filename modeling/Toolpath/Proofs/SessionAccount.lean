import Toolpath.Proofs.Position
import Toolpath.Proofs.ToolDiscipline

/-!
# The account of a session

A session takes calls and emissions in any order.  A move may lift or engage
the tool on its own, and an emission is a run of calls, so that the steps of a
session do not show what has happened to the tool.  This module writes out the
calls that are executed, those on behalf of a move included, and proves that
they account for everything a session knows: its lines are the lines of these
calls one after the other, the tool is engaged exactly if the last switch among
them is a start, and it is where they last told it to be.

Every statement is about any sequence of steps on any machine.  Recorded
positions are the only calls that leave no trace in the program.
-/

namespace Toolpath

/-! ## Calls as they are executed -/

namespace Call

/-- The lines that a call writes when nothing has to be done before it. -/
def lines (machine : MachineSettings) : Call → List ProgramLine
  | comment text => [.comment text]
  | separator => [.blank]
  | code text => [.code text]
  | go target => [.rapid target]
  | draw target => [.cut target machine.feed]
  | arc target offset => [.arc target offset machine.feed]
  | circle radius => [.circle radius machine.feed]
  | start => machine.engageLines
  | stop => machine.liftLines
  | setPosition _ => []

/-- Whether a call engages the tool, for those that switch it. -/
def switch? : Call → Option Bool
  | start => some true
  | stop => some false
  | comment _ | separator | code _ | go _ | draw _ | arc _ _ | circle _
  | setPosition _ => none

/-- Whether a call only records a position. -/
def isRecord : Call → Bool
  | setPosition _ => true
  | comment _ | separator | code _ | go _ | draw _ | arc _ _ | circle _
  | start | stop => false

end Call

namespace Tool

/-- A call together with the switch that has to come before it: a move without
cutting stops an engaged tool, and a straight cut starts a lifted one. -/
def execute (tool : Tool) : Call → List Call
  | .go target => if tool.engaged then [.stop, .go target] else [.go target]
  | .draw target =>
    if tool.engaged then [.draw target] else [.start, .draw target]
  | call => [call]

/-- The calls that are executed when a tool carries out the given ones. -/
def executeAll (tool : Tool) : List Call → List Call
  | [] => []
  | call :: calls => tool.execute call ++ (tool.after call).executeAll calls

theorem executeAll_append
    (tool : Tool)
    (first second : List Call) :
    tool.executeAll (first ++ second) =
      tool.executeAll first ++ (tool.afterAll first).executeAll second := by
  induction first generalizing tool with
  | nil => rfl
  | cons call calls hypothesis => simp [executeAll, hypothesis]

/-- A tool executes what it is told and adds nothing but switches of its own. -/
theorem eq_or_switches_of_mem_execute
    {tool : Tool}
    {call executed : Call}
    (member : executed ∈ tool.execute call) :
    executed = call ∨ executed = .start ∨ executed = .stop := by
  cases call with
  | go target =>
      cases engaged : tool.engaged with
      | false =>
          left
          simpa [execute, engaged] using member
      | true =>
          have either : executed = .stop ∨ executed = .go target := by
            simpa [execute, engaged] using member
          exact either.elim (fun stop => Or.inr (Or.inr stop)) Or.inl
  | draw target =>
      cases engaged : tool.engaged with
      | true =>
          left
          simpa [execute, engaged] using member
      | false =>
          have either : executed = .start ∨ executed = .draw target := by
            simpa [execute, engaged] using member
          exact either.elim (fun start => Or.inr (Or.inl start)) Or.inl
  | _ => exact Or.inl (List.mem_singleton.mp member)

theorem mem_or_switches_of_mem_executeAll
    {tool : Tool}
    {calls : List Call}
    {executed : Call}
    (member : executed ∈ tool.executeAll calls) :
    executed ∈ calls ∨ executed = .start ∨ executed = .stop := by
  induction calls generalizing tool with
  | nil => cases member
  | cons call calls hypothesis =>
      rcases List.mem_append.mp member with first | later
      · rcases eq_or_switches_of_mem_execute first with same | switches
        · subst same
          exact Or.inl List.mem_cons_self
        · exact Or.inr switches
      · exact (hypothesis later).imp_left (List.mem_cons_of_mem call)

/-- Nothing that a tool is told is left out. -/
theorem mem_executeAll
    {calls : List Call}
    {call : Call}
    (member : call ∈ calls)
    (tool : Tool) :
    call ∈ tool.executeAll calls := by
  induction calls generalizing tool with
  | nil => cases member
  | cons first calls hypothesis =>
      rw [executeAll, List.mem_append]
      rcases List.mem_cons.mp member with same | later
      · subst same
        left
        cases call with
        | go target => cases engaged : tool.engaged <;> simp [execute, engaged]
        | draw target =>
            cases engaged : tool.engaged <;> simp [execute, engaged]
        | _ => exact List.mem_singleton.mpr rfl
      · exact Or.inr (hypothesis later (tool.after first))

/-- What a call adds to the program is what its execution writes, one call
after the other. -/
theorem write_eq_flatMap_execute
    (machine : MachineSettings)
    (tool : Tool)
    (call : Call) :
    tool.write machine call =
      (tool.execute call).flatMap (Call.lines machine) := by
  cases call with
  | go target =>
      cases engaged : tool.engaged <;>
        simp [write, execute, engaged, Call.lines]
  | draw target =>
      cases engaged : tool.engaged <;>
        simp [write, execute, engaged, Call.lines]
  | start => exact (List.append_nil _).symm
  | stop => exact (List.append_nil _).symm
  | comment text => rfl
  | separator => rfl
  | code text => rfl
  | arc target offset => rfl
  | circle radius => rfl
  | setPosition position => rfl

theorem writeAll_eq_flatMap_executeAll
    (machine : MachineSettings)
    (tool : Tool)
    (calls : List Call) :
    tool.writeAll machine calls =
      (tool.executeAll calls).flatMap (Call.lines machine) := by
  induction calls generalizing tool with
  | nil => rfl
  | cons call calls hypothesis =>
      rw [writeAll, executeAll, List.flatMap_append, hypothesis,
        write_eq_flatMap_execute]

/-- Every line is written for one of the calls or for a switch of the tool. -/
theorem exists_call_of_mem_writeAll
    {machine : MachineSettings}
    {tool : Tool}
    {calls : List Call}
    {line : ProgramLine}
    (member : line ∈ tool.writeAll machine calls) :
    ∃ call, (call ∈ calls ∨ call = .start ∨ call = .stop) ∧
      line ∈ call.lines machine := by
  rw [writeAll_eq_flatMap_executeAll] at member
  rcases List.mem_flatMap.mp member with ⟨call, executed, written⟩
  exact ⟨call, mem_or_switches_of_mem_executeAll executed, written⟩

theorem mem_writeAll_of_mem_lines
    {machine : MachineSettings}
    {calls : List Call}
    {call : Call}
    {line : ProgramLine}
    (told : call ∈ calls)
    (written : line ∈ call.lines machine)
    (tool : Tool) :
    line ∈ tool.writeAll machine calls := by
  rw [writeAll_eq_flatMap_executeAll]
  exact List.mem_flatMap.mpr ⟨call, mem_executeAll told tool, written⟩

/-- The last switch in the execution of a call decides whether the tool is
engaged after it; without any switch the tool stays as it is. -/
theorem engaged_after
    (tool : Tool)
    (call : Call) :
    (tool.after call).engaged =
      ((tool.execute call).filterMap Call.switch?).getLast?.getD
        tool.engaged := by
  cases call with
  | go target =>
      rw [execute]
      cases tool.engaged <;> rfl
  | draw target =>
      rw [execute]
      cases tool.engaged <;> rfl
  | start => rfl
  | stop => rfl
  | comment text => rfl
  | separator => rfl
  | code text => rfl
  | arc target offset => rfl
  | circle radius => rfl
  | setPosition position => rfl

theorem engaged_afterAll
    (tool : Tool)
    (calls : List Call) :
    (tool.afterAll calls).engaged =
      ((tool.executeAll calls).filterMap Call.switch?).getLast?.getD
        tool.engaged := by
  induction calls using List.reverseRecOn with
  | nil => rfl
  | append_singleton calls call hypothesis =>
      have last :
          (tool.afterAll calls).executeAll [call] =
            (tool.afterAll calls).execute call :=
        List.append_nil _
      rw [afterAll_append, afterAll_cons, afterAll_nil, engaged_after,
        hypothesis, executeAll_append, last, List.filterMap_append,
        List.getLast?_append]
      cases
        (((tool.afterAll calls).execute call).filterMap
          Call.switch?).getLast? <;>
        rfl

/-- Executed calls tell the tool of the same positions as the calls that are
carried out: a switch tells it of none. -/
theorem told_executeAll
    (tool : Tool)
    (calls : List Call) :
    (tool.executeAll calls).filterMap Call.told? =
      calls.filterMap Call.told? := by
  induction calls generalizing tool with
  | nil => rfl
  | cons call calls hypothesis =>
      have first :
          (tool.execute call).filterMap Call.told? = call.told?.toList := by
        cases call with
        | go target =>
            rw [execute]
            cases tool.engaged <;> rfl
        | draw target =>
            rw [execute]
            cases tool.engaged <;> rfl
        | _ => rfl
      rw [executeAll, List.filterMap_append, first, hypothesis]
      cases told : call.told? <;> simp [told]

/-- Recorded positions can be left out without a change to the lines that are
written or to the state in which the tool ends. -/
theorem without_records
    (machine : MachineSettings)
    {tool other : Tool}
    (alike : tool.engaged = other.engaged)
    (calls : List Call) :
    tool.writeAll machine calls =
        other.writeAll machine (calls.filter (!·.isRecord)) ∧
      (tool.afterAll calls).engaged =
        (other.afterAll (calls.filter (!·.isRecord))).engaged := by
  induction calls generalizing tool other with
  | nil => exact ⟨rfl, alike⟩
  | cons call calls hypothesis =>
      cases record : call.isRecord with
      | true =>
          have silent : tool.write machine call = [] := by
            cases call <;> first | rfl | cases record
          have steady : (tool.after call).engaged = tool.engaged := by
            cases call <;> first | rfl | cases record
          have rest := hypothesis (steady.trans alike)
          simpa [writeAll, silent, record] using rest
      | false =>
          have same : tool.write machine call = other.write machine call := by
            cases call <;> simp [write, alike]
          have engaged :
              (tool.after call).engaged = (other.after call).engaged := by
            cases call <;> simp [after, alike]
          have rest := hypothesis engaged
          simpa [writeAll, same, record] using rest

end Tool

/-! ## Lines and the state in which they are written -/

/-- Whether a line of a move is written in the state that the move requires:
a rapid move with the tool up, a straight cut with the tool down. -/
def ProgramLine.suits (down : Bool) : ProgramLine → Bool
  | .rapid _ => !down
  | .cut _ _ => down
  | .comment _ | .blank | .code _ | .arc _ _ _ | .circle _ _
  | .spindleOn _ | .spindleOff _ | .dwell _ => true

/-- Every line suits the state in which the lines before it leave the tool. -/
def EachSuits (down : Bool) (lines : List ProgramLine) : Prop :=
  ∀ before line after, lines = before ++ line :: after →
    line.suits (downAfter down before) = true

/-- Lines that are no moves suit any state. -/
theorem eachSuits_of_indifferent
    {lines : List ProgramLine}
    (indifferent : ∀ line ∈ lines, ∀ down, line.suits down = true)
    (down : Bool) :
    EachSuits down lines := by
  intro before line after split
  apply indifferent
  simp [split]

theorem eachSuits_singleton {down : Bool} {line : ProgramLine} :
    EachSuits down [line] ↔ line.suits down = true := by
  constructor
  · intro suits
    exact suits [] line [] rfl
  · intro suits before other after split
    obtain ⟨rfl, rfl, -⟩ : before = [] ∧ line = other ∧ after = [] := by
      simpa [eq_comm, List.append_eq_singleton_iff] using split
    exact suits

theorem EachSuits.append
    {down : Bool}
    {first second : List ProgramLine}
    (begins : EachSuits down first)
    (continues : EachSuits (downAfter down first) second) :
    EachSuits down (first ++ second) := by
  intro before line after split
  rcases append_eq_append_cons_iff.mp split with
    ⟨middle, isFirst, -⟩ | ⟨earlier, isBefore, isSecond⟩
  · exact begins before line middle isFirst
  · subst isBefore
    rw [downAfter_append]
    exact continues earlier line after isSecond

namespace Tool

/-- A move brings the tool into the state that it requires before its line is
written, whatever has been done to the tool. -/
theorem eachSuits_write
    (machine : MachineSettings)
    (tool : Tool)
    (call : Call) :
    EachSuits tool.engaged (tool.write machine call) := by
  have engages (down : Bool) : EachSuits down machine.engageLines := by
    apply eachSuits_of_indifferent
    simp [MachineSettings.engageLines, dwellLines, ProgramLine.suits]
  have lifts (down : Bool) : EachSuits down machine.liftLines := by
    apply eachSuits_of_indifferent
    simp [MachineSettings.liftLines, dwellLines, ProgramLine.suits]
  cases call with
  | go target =>
      cases engaged : tool.engaged with
      | false =>
          simp only [write, engaged]
          exact eachSuits_singleton.mpr rfl
      | true =>
          simp only [write, engaged, if_true]
          apply (lifts true).append
          rw [downAfter_liftLines]
          exact eachSuits_singleton.mpr rfl
  | draw target =>
      cases engaged : tool.engaged with
      | true =>
          simp only [write, engaged]
          exact eachSuits_singleton.mpr rfl
      | false =>
          simp only [write, engaged, Bool.false_eq_true, if_false]
          apply (engages false).append
          rw [downAfter_engageLines]
          exact eachSuits_singleton.mpr rfl
  | start => exact engages tool.engaged
  | stop => exact lifts tool.engaged
  | setPosition position =>
      intro before line after split
      simp [write] at split
  | comment text => exact eachSuits_singleton.mpr rfl
  | separator => exact eachSuits_singleton.mpr rfl
  | code text => exact eachSuits_singleton.mpr rfl
  | arc target offset => exact eachSuits_singleton.mpr rfl
  | circle radius => exact eachSuits_singleton.mpr rfl

theorem eachSuits_writeAll
    (machine : MachineSettings)
    (tool : Tool)
    (calls : List Call) :
    EachSuits tool.engaged (tool.writeAll machine calls) := by
  induction calls generalizing tool with
  | nil => exact eachSuits_of_indifferent (by simp [writeAll]) _
  | cons call calls hypothesis =>
      apply (eachSuits_write machine tool call).append
      rw [downAfter_write]
      exact hypothesis (tool.after call)

end Tool

/-! ## Steps of a session -/

namespace SessionStep

/-- The calls that a step carries out: none, if it is an emission that
fails. -/
def calls : SessionStep → List Call
  | .call single => [single]
  | .emit entity => entity.calls

/-- Whether a step only records a position. -/
def isRecord : SessionStep → Bool
  | .call single => single.isRecord
  | .emit _ => false

/-- The calls that are executed in the course of some steps, from a tool that
has not been used. -/
def executed (steps : List SessionStep) : List Call :=
  Tool.initial.executeAll (steps.flatMap calls)

/-- What is left of some steps without those that only record positions. -/
def withoutRecords (steps : List SessionStep) : List SessionStep :=
  steps.filter (!·.isRecord)

/-- Steps that only record positions contribute nothing but such calls. -/
theorem calls_withoutRecords (steps : List SessionStep) :
    ((withoutRecords steps).flatMap calls).filter (!·.isRecord) =
      (steps.flatMap calls).filter (!·.isRecord) := by
  induction steps with
  | nil => rfl
  | cons step steps hypothesis =>
      cases record : step.isRecord with
      | false => simpa [withoutRecords, record] using hypothesis
      | true =>
          have nothing : step.calls.filter (!·.isRecord) = [] := by
            cases step with
            | call single => simpa [calls, isRecord] using record
            | emit entity => cases record
          simpa [withoutRecords, record, nothing] using hypothesis

end SessionStep

namespace Session

theorem step_eq_perform
    (machine : MachineSettings)
    (session : Session)
    (step : SessionStep) :
    (session.step machine step).1 = session.perform machine step.calls := by
  cases step with
  | call call => rfl
  | emit entity => exact session.emit_eq_perform machine entity

/-- A run of steps carries out their calls. -/
theorem run_eq_perform
    (machine : MachineSettings)
    (session : Session)
    (steps : List SessionStep) :
    session.run machine steps =
      session.perform machine (steps.flatMap SessionStep.calls) := by
  induction steps generalizing session with
  | nil => simp [run, perform, Tool.writeAll]
  | cons step steps hypothesis =>
      have first :
          session.run machine [step] =
            session.perform machine step.calls :=
        session.step_eq_perform machine step
      rw [← List.singleton_append, run_append, first, hypothesis,
        List.flatMap_append, perform_append, List.flatMap_singleton]

theorem lines_initial_run
    (machine : MachineSettings)
    (steps : List SessionStep) :
    (initial.run machine steps).lines =
      Tool.initial.writeAll machine (steps.flatMap SessionStep.calls) := by
  rw [run_eq_perform]
  exact List.nil_append _

theorem tool_initial_run
    (machine : MachineSettings)
    (steps : List SessionStep) :
    (initial.run machine steps).tool =
      Tool.initial.afterAll (steps.flatMap SessionStep.calls) := by
  rw [run_eq_perform]
  rfl

/-- A session shows in its lines, and in the state of its tool, what is left of
its steps without the records of positions. -/
theorem run_withoutRecords
    (machine : MachineSettings)
    (steps : List SessionStep) :
    (initial.run machine steps).lines =
        (initial.run machine (SessionStep.withoutRecords steps)).lines ∧
      (initial.run machine steps).tool.engaged =
        (initial.run machine
          (SessionStep.withoutRecords steps)).tool.engaged := by
  simp only [lines_initial_run, tool_initial_run]
  have all := @Tool.without_records machine Tool.initial Tool.initial rfl
    (steps.flatMap SessionStep.calls)
  have fewer := @Tool.without_records machine Tool.initial Tool.initial rfl
    ((SessionStep.withoutRecords steps).flatMap SessionStep.calls)
  rw [SessionStep.calls_withoutRecords] at fewer
  exact ⟨all.1.trans fewer.1.symm, all.2.trans fewer.2.symm⟩

/--
The account of a session that began afresh and has taken the given steps, some
of which may be emissions that failed.
-/
structure Accounted
    (machine : MachineSettings)
    (steps : List SessionStep)
    (session : Session) :
    Prop where
  /-- The lines are those of the executed calls, in their order. -/
  lines_eq :
    session.lines =
      (SessionStep.executed steps).flatMap (Call.lines machine)
  /-- Whatever step is next, it only adds lines. -/
  lines_extended :
    ∀ step, session.lines <+: (session.step machine step).1.lines
  /-- The tool is engaged exactly if the last switch executed is a start. -/
  engaged_iff :
    session.tool.engaged = true ↔
      ((SessionStep.executed steps).filterMap Call.switch?).getLast? =
        some true
  /-- Read line by line, the program leaves the tool as it is. -/
  down_iff : downAfter false session.lines = session.tool.engaged
  /-- Rapid moves are written with the tool up and straight cuts with the tool
  down. -/
  moves_suit : EachSuits false session.lines
  /-- The tool is where the last executed call that tells of a position has told
  it to be, and nowhere without such a call. -/
  position_eq :
    session.tool.position =
      lastPoint Call.told? (SessionStep.executed steps)
  /-- Steps that differ only in recorded positions lead to the same lines and
  to the same state of the tool. -/
  records_leave_no_trace :
    ∀ other,
      SessionStep.withoutRecords other =
        SessionStep.withoutRecords steps →
      (initial.run machine other).lines = session.lines ∧
        (initial.run machine other).tool.engaged = session.tool.engaged
  /-- An emission that fails changes nothing. -/
  failure_changes_nothing :
    ∀ entity cause, (session.emit machine entity).2 = some cause →
      (session.emit machine entity).1 = session

end Session

/-- Any steps whatever, taken one after the other on any machine, lead to a
session that they account for. -/
theorem run_accounted
    (machine : MachineSettings)
    (steps : List SessionStep) :
    Session.Accounted machine steps
      (Session.initial.run machine steps) := by
  have lines := Session.lines_initial_run machine steps
  have tool := Session.tool_initial_run machine steps
  constructor
  case lines_eq =>
    rw [lines, Tool.writeAll_eq_flatMap_executeAll]
    rfl
  case lines_extended =>
    intro step
    rw [Session.step_eq_perform]
    exact List.prefix_append _ _
  case engaged_iff =>
    rw [tool, Tool.engaged_afterAll]
    rw [← SessionStep.executed, Tool.initial, Option.getD_eq_iff]
    simp
  case down_iff =>
    rw [lines, tool]
    exact Tool.downAfter_writeAll machine Tool.initial _
  case moves_suit =>
    rw [lines]
    exact Tool.eachSuits_writeAll machine Tool.initial _
  case position_eq =>
    rw [tool, Tool.position_afterAll_eq_lastPoint, Tool.initial,
      Option.or_none, lastPoint, lastPoint, SessionStep.executed,
      Tool.told_executeAll]
  case records_leave_no_trace =>
    intro other same
    have here := Session.run_withoutRecords machine steps
    have there := Session.run_withoutRecords machine other
    rw [same] at there
    exact ⟨there.1.trans here.1.symm, there.2.trans here.2.symm⟩
  case failure_changes_nothing =>
    intro entity cause fails
    cases outcome : entity.calls? with
    | ok calls => simp [Session.emit, outcome] at fails
    | error other => rw [Session.emit_eq_self_of_error _ _ _ _ outcome]

/-- A move after a start stops the tool before it goes. -/
example (target : Point) :
    SessionStep.executed [.call .start, .call (.go target)] =
      [.start, .stop, .go target] :=
  rfl

end Toolpath
