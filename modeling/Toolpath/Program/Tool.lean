import Toolpath.Motion.Emission
import Toolpath.Program.Line
import Toolpath.Settings.Basic

/-!
# The tool

Calls are carried out by a tool that is engaged or lifted and knows where it
is.  Moves look after the tool themselves: one without cutting lifts it first,
and a straight cut engages it first.  `Tool.after` is the state a call leads
to, which no setting of the machine has any influence on, and `Tool.write` is
what the call adds to the program.
-/

namespace Toolpath

/-- The state of the tool. -/
structure Tool where
  /-- Whether the tool cuts. -/
  engaged : Bool
  /-- Where the tool is, once it has moved. -/
  position : Option Point

namespace Tool

/-- A lifted tool that has not moved yet. -/
def initial : Tool := ⟨false, none⟩

/-- The state that a call leads to. -/
def after (tool : Tool) : Call → Tool
  | .go target => ⟨false, some target⟩
  | .draw target => ⟨true, some target⟩
  | .start => { tool with engaged := true }
  | .stop => { tool with engaged := false }
  | .setPosition position => { tool with position := some position }
  | .comment _ | .separator | .code _ | .arc _ _ | .circle _ => tool

/-- The state that a sequence of calls leads to. -/
def afterAll (tool : Tool) (calls : List Call) : Tool :=
  calls.foldl after tool

end Tool

/-- A wait, unless there is nothing to wait for. -/
def dwellLines (milliseconds : UInt32) : List ProgramLine :=
  if 0 < milliseconds then [.dwell milliseconds] else []

def MachineSettings.engageLines (machine : MachineSettings) :
    List ProgramLine :=
  .spindleOn machine.spindleOn :: dwellLines machine.startDelay

def MachineSettings.liftLines (machine : MachineSettings) :
    List ProgramLine :=
  .spindleOff machine.spindleOff :: dwellLines machine.stopDelay

namespace Tool

/-- What a call adds to the program. -/
def write
    (machine : MachineSettings)
    (tool : Tool) :
    Call → List ProgramLine
  | .comment text => [.comment text]
  | .separator => [.blank]
  | .code text => [.code text]
  | .go target =>
    (if tool.engaged then machine.liftLines else []) ++ [.rapid target]
  | .draw target =>
    (if tool.engaged then [] else machine.engageLines)
      ++ [.cut target machine.feed]
  | .arc target offset => [.arc target offset machine.feed]
  | .circle radius => [.circle radius machine.feed]
  | .start => machine.engageLines
  | .stop => machine.liftLines
  | .setPosition _ => []

/-- What a sequence of calls adds to the program. -/
def writeAll
    (machine : MachineSettings)
    (tool : Tool) :
    List Call → List ProgramLine
  | [] => []
  | call :: calls =>
    tool.write machine call ++ (tool.after call).writeAll machine calls

@[simp]
theorem afterAll_nil (tool : Tool) : tool.afterAll [] = tool := rfl

@[simp]
theorem afterAll_cons
    (tool : Tool)
    (call : Call)
    (calls : List Call) :
    tool.afterAll (call :: calls) = (tool.after call).afterAll calls :=
  rfl

theorem afterAll_append
    (tool : Tool)
    (first second : List Call) :
    tool.afterAll (first ++ second)
      = (tool.afterAll first).afterAll second :=
  List.foldl_append

theorem writeAll_append
    (machine : MachineSettings)
    (tool : Tool)
    (first second : List Call) :
    tool.writeAll machine (first ++ second)
      = tool.writeAll machine first
        ++ (tool.afterAll first).writeAll machine second := by
  induction first generalizing tool with
  | nil => rfl
  | cons call calls hypothesis => simp [writeAll, hypothesis]

end Tool

end Toolpath
