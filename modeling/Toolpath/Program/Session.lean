import Toolpath.Program.Tool

/-!
# Sessions

A session is a tool at work, together with the lines written so far.  Calls
can be carried out one by one, and entities can be emitted in between.

The main statements say that a session carries out a sequence of calls as it
carries out its parts one after the other, and that an emission which fails
changes nothing.
-/

namespace Toolpath

/-- A tool at work. -/
structure Session where
  tool : Tool
  /-- The lines written so far. -/
  lines : List ProgramLine

inductive SessionStep where
  | call (call : Call)
  | emit (entity : Entity)

namespace Session

/-- A session that has not begun. -/
def initial : Session := ⟨Tool.initial, []⟩

/-- Carries out a sequence of calls. -/
def perform
    (machine : MachineSettings)
    (session : Session)
    (calls : List Call) :
    Session where
  tool := session.tool.afterAll calls
  lines := session.lines ++ session.tool.writeAll machine calls

/-- Emits an entity, or says why it cannot be cut and changes nothing. -/
def emit
    (machine : MachineSettings)
    (session : Session)
    (entity : Entity) :
    Session × Option EntityError :=
  match entity.calls? with
  | .ok calls => (session.perform machine calls, none)
  | .error cause => (session, some cause)

/-- Takes a step, which fails only if it is an emission. -/
def step
    (machine : MachineSettings)
    (session : Session) :
    SessionStep → Session × Option EntityError
  | .call call => (session.perform machine [call], none)
  | .emit entity => session.emit machine entity

/-- Takes steps one after the other, whether they fail or not. -/
def run
    (machine : MachineSettings)
    (session : Session)
    (steps : List SessionStep) :
    Session :=
  steps.foldl (fun session step => (session.step machine step).1) session

theorem perform_append
    (machine : MachineSettings)
    (session : Session)
    (first second : List Call) :
    session.perform machine (first ++ second)
      = (session.perform machine first).perform machine second := by
  simp [perform, Tool.afterAll_append, Tool.writeAll_append]

theorem emit_eq_self_of_error
    (machine : MachineSettings)
    (session : Session)
    (entity : Entity)
    (cause : EntityError)
    (fails : entity.calls? = .error cause) :
    session.emit machine entity = (session, some cause) := by
  simp [emit, fails]

theorem run_append
    (machine : MachineSettings)
    (session : Session)
    (first second : List SessionStep) :
    session.run machine (first ++ second)
      = (session.run machine first).run machine second :=
  List.foldl_append

end Session

end Toolpath
