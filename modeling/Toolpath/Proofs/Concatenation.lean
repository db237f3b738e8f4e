import Toolpath.Proofs.Position
import Toolpath.Proofs.ToolDiscipline

/-!
# Drawings one after the other

Where entities are not reordered, a drawing that follows another is compiled as
it would be on its own.  All that the first drawing hands over is a position,
which counts only if the second one moves nothing, and a tool that may still be
engaged, which is lifted after the first remark of the second one.
-/

namespace Toolpath

/-! ## What is handed over -/

/-- The first line of what begins a block is a remark. -/
theorem Opening.comment_of_writeAll
    {calls : List Call}
    (opening : Opening calls)
    {machine : MachineSettings}
    {tool : Tool}
    {line : ProgramLine}
    {lines : List ProgramLine}
    (written : tool.writeAll machine calls = line :: lines) :
    ∃ text, line = .comment text := by
  cases opening with
  | empty => cases written
  | block text target further =>
      exact ⟨text, (List.cons.inj written).1.symm⟩

/-- The body of two drawings: the second begins with a lift after its first
line, if the first ends with a line. -/
theorem Settings.body_append
    (settings : Settings)
    (first second : List Entity) :
    (settings.programOf (first ++ second)).body =
      (settings.programOf first).body
        ++ liftAfterFirst settings.machine (endsWithLine first)
          (settings.programOf second).body := by
  simp only [programOf, callsOf_append, Tool.writeAll_append]
  rw [(opening_callsOf second).writeAll_eq, engaged_afterAll_callsOf]

/-! ## Programs one after the other -/

/--
A program for two drawings, made of the programs for each of them.

The first program is that of the entities `drawn`.
-/
structure Program.Concatenates
    (machine : MachineSettings)
    (drawn : List Entity)
    (first second joined : Program) :
    Prop where
  emitted : joined.emitted = first.emitted + second.emitted
  skipped : joined.skipped = first.skipped + second.skipped
  preamble :
    joined.preamble = first.preamble ∧ joined.preamble = second.preamble
  postscript :
    joined.postscript = first.postscript ∧
      joined.postscript = second.postscript
  /-- The last position is that of the second program, if it has any. -/
  position : joined.position = second.position.or first.position
  /-- The first program leaves the tool engaged exactly if the last of its
  entities that contributes lines is a line. -/
  engaged : downAfter false first.body = endsWithLine drawn
  /-- A second program that writes nothing changes nothing. -/
  body_of_nil : second.body = [] → joined.body = first.body
  /-- The second body begins with a remark.  A tool that is left engaged is
  lifted right after it, and nothing else is changed. -/
  body_of_cons :
    ∀ remark lines, second.body = remark :: lines →
      (∃ text, remark = .comment text) ∧
      joined.body =
        first.body
          ++ remark
          :: (if downAfter false first.body then
                .spindleOff machine.spindleOff
                  :: (if 0 < machine.stopDelay then
                        [.dwell machine.stopDelay]
                      else [])
              else [])
          ++ lines

/-- Without reordering, two drawings that can be compiled can be compiled one
after the other, and all that ties them together is one lift. -/
theorem compile_append
    (valid : ValidSettings)
    (unordered : valid.settings.output.optimizeOrder = false)
    (first second : List Entity)
    (firstProgram secondProgram : Program)
    (firstCompiled : valid.compile first = .ok firstProgram)
    (secondCompiled : valid.compile second = .ok secondProgram) :
    ∃ joined,
      valid.compile (first ++ second) = .ok joined ∧
        Program.Concatenates valid.settings.machine first
          firstProgram secondProgram joined := by
  have arranged := Settings.arrange_of_unordered unordered
  rw [ValidSettings.compile_eq_ok_iff, arranged] at firstCompiled
  rw [ValidSettings.compile_eq_ok_iff, arranged] at secondCompiled
  obtain ⟨firstAdmitted, rfl⟩ := firstCompiled
  obtain ⟨secondAdmitted, rfl⟩ := secondCompiled
  have admitted :
      ∀ entity ∈ first ++ second, valid.settings.admits entity = true :=
    List.forall_mem_append.mpr ⟨firstAdmitted, secondAdmitted⟩
  refine ⟨valid.settings.programOf (first ++ second), ?_, ?_⟩
  · rw [ValidSettings.compile_eq_ok_iff, arranged]
    exact ⟨admitted, rfl⟩
  have engaged := valid.settings.downAfter_body first
  have body := valid.settings.body_append first second
  constructor
  case emitted => exact List.countP_append
  case skipped => exact List.countP_append
  case preamble => exact ⟨rfl, rfl⟩
  case postscript => exact ⟨rfl, rfl⟩
  case position =>
    simp only [Settings.programOf, callsOf_append, Tool.afterAll_append]
    exact Tool.position_afterAll _ _
  case engaged => exact engaged
  case body_of_nil =>
    intro nothing
    rw [body, nothing, liftAfterFirst, List.append_nil]
  case body_of_cons =>
    intro remark lines written
    refine ⟨(opening_callsOf second).comment_of_writeAll written, ?_⟩
    rw [body, written, engaged, liftAfterFirst]
    simp only [List.append_assoc, List.cons_append]
    rfl

/-- A drawing that leaves the tool engaged, followed by itself. -/
theorem sample_append :
    ∃ single double,
      Sample.settings.compile Sample.drawing = .ok single ∧
        Sample.settings.compile (Sample.drawing ++ Sample.drawing) =
          .ok double ∧
        Program.Concatenates Sample.settings.settings.machine
          Sample.drawing single single double := by
  obtain ⟨double, compiled, concatenates⟩ :=
    compile_append Sample.settings rfl Sample.drawing Sample.drawing
      _ _ rfl rfl
  exact ⟨_, double, rfl, compiled, concatenates⟩

end Toolpath
