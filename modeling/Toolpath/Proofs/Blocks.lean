import Mathlib.Data.List.Induction
import Toolpath.Proofs.Emission

/-!
# Blocks

The lines that an entity gives when the tool starts out lifted are its block.
A block begins with a remark and a move without cutting, so the state in which
the tool is found matters at one place only: a tool that is still engaged is
lifted between the two.  Lines are the only entities that leave it engaged.

Hence the body of a program is made of the blocks of its entities, with a lift
after the remark of each block that follows one of a line.
-/

namespace Toolpath

/-! ## How blocks begin -/

/-- Calls that begin with a remark and a move without cutting, if there are
any. -/
inductive Opening : List Call → Prop where
  | empty : Opening []
  | block
      (text : String)
      (target : Point)
      (further : List Call) :
      Opening (.comment text :: .go target :: further)

theorem Opening.append
    {first second : List Call}
    (firstOpening : Opening first)
    (secondOpening : Opening second) :
    Opening (first ++ second) := by
  cases firstOpening with
  | empty => exact secondOpening
  | block text target further => exact .block text target _

theorem Opening.flatMap
    {Part : Type}
    {callsOfPart : Part → List Call}
    (opening : ∀ part, Opening (callsOfPart part))
    (parts : List Part) :
    Opening (parts.flatMap callsOfPart) := by
  induction parts with
  | nil => exact .empty
  | cons part parts hypothesis =>
      rw [List.flatMap_cons]
      exact (opening part).append hypothesis

theorem Entity.opening_calls (entity : Entity) : Opening entity.calls := by
  cases entity with
  | line shape => exact .block _ _ _
  | circle shape => exact .block _ _ _
  | arc shape => exact .block _ _ _
  | ellipse shape => exact .empty
  | polyline shape =>
      exact Opening.flatMap (fun chain => .block _ _ _) shape.chains

theorem opening_callsOf (entities : List Entity) :
    Opening (callsOf entities) :=
  Opening.flatMap Entity.opening_calls entities

/-! ## The lift between two blocks -/

/-- Lines with the tool lifted right after the first of them, if it is
engaged and there are any. -/
def liftAfterFirst
    (machine : MachineSettings)
    (engaged : Bool) :
    List ProgramLine → List ProgramLine
  | [] => []
  | line :: lines =>
    line :: (if engaged then machine.liftLines else []) ++ lines

/-- What is written does not depend on where the tool is, and on its being
engaged only by one lift after the first remark. -/
theorem Opening.writeAll_eq
    {calls : List Call}
    (opening : Opening calls)
    (machine : MachineSettings)
    (tool : Tool) :
    tool.writeAll machine calls =
      liftAfterFirst machine tool.engaged
        (Tool.initial.writeAll machine calls) := by
  cases opening with
  | empty => rfl
  | block text target further =>
      cases engaged : tool.engaged <;>
        simp [Tool.writeAll, Tool.write, Tool.after, Tool.initial,
          liftAfterFirst, engaged]

/-! ## Which entities leave the tool engaged -/

namespace Entity

def isLine : Entity → Bool
  | line _ => true
  | _ => false

/-- Whether an entity contributes any lines. -/
def contributes (entity : Entity) : Bool := !entity.calls.isEmpty

/-- The lines that an entity gives when the tool starts out lifted. -/
def block
    (machine : MachineSettings)
    (entity : Entity) :
    List ProgramLine :=
  Tool.initial.writeAll machine entity.calls

/-- The block is empty for the entities that do not contribute, whatever the
machine. -/
theorem block_eq_nil_iff
    (machine : MachineSettings)
    (entity : Entity) :
    entity.block machine = [] ↔ entity.contributes = false := by
  have opening := entity.opening_calls
  rw [block, contributes]
  generalize entity.calls = calls at opening ⊢
  cases opening with
  | empty => simp [Tool.writeAll]
  | block text target further => simp [Tool.writeAll, Tool.write]

/-- Ellipses and polylines without chains are the entities that do not
contribute. -/
theorem contributes_eq_false_iff (entity : Entity) :
    entity.contributes = false ↔
      (∃ shape, entity = ellipse shape) ∨
      (∃ shape, entity = polyline shape ∧ shape.chains = []) := by
  cases entity with
  | line shape => simp [contributes, Line.calls]
  | circle shape => simp [contributes, Circle.calls]
  | arc shape => simp [contributes, Arc.calls]
  | ellipse shape => simp [contributes]
  | polyline shape =>
      cases chains : shape.chains <;>
        simp [contributes, PolyLine.calls, Chain.calls, chains]

end Entity

theorem Chain.engaged_afterAll
    (chain : Chain)
    (label : String)
    (tool : Tool) :
    (tool.afterAll (chain.calls label)).engaged = false := by
  simp [Chain.calls, Tool.afterAll_append, Tool.after]

theorem PolyLine.engaged_afterAll
    (polyline : PolyLine)
    (tool : Tool) :
    (tool.afterAll polyline.calls).engaged =
      (polyline.chains.isEmpty && tool.engaged) := by
  have general :
      ∀ (label : String) (chains : List Chain) (tool : Tool),
        (tool.afterAll (chains.flatMap (Chain.calls label))).engaged =
          (chains.isEmpty && tool.engaged) := by
    intro label chains
    induction chains with
    | nil => simp
    | cons chain chains hypothesis =>
        intro tool
        rw [List.flatMap_cons, Tool.afterAll_append, hypothesis,
          chain.engaged_afterAll]
        simp
  exact general polyline.label polyline.chains tool

/-- A line leaves the tool engaged, every other block leaves it lifted. -/
theorem Entity.engaged_afterAll
    (entity : Entity)
    (tool : Tool) :
    (tool.afterAll entity.calls).engaged =
      if entity.contributes then entity.isLine else tool.engaged := by
  cases entity with
  | line shape =>
      simp [contributes, Line.calls, isLine, Tool.after]
  | circle shape =>
      simp [contributes, Circle.calls, isLine, Tool.after]
  | arc shape =>
      simp [contributes, Arc.calls, isLine, Tool.after]
  | ellipse shape => simp [contributes]
  | polyline shape =>
      rw [calls_polyline, shape.engaged_afterAll]
      cases chains : shape.chains <;>
        simp [contributes, PolyLine.calls, Chain.calls, isLine, chains]

/-! ## Joining blocks -/

/-- Whether the last entity that contributes lines is a line. -/
def endsWithLine (entities : List Entity) : Bool :=
  (entities.filter Entity.contributes).getLast?.any Entity.isLine

theorem endsWithLine_concat (entities : List Entity) (entity : Entity) :
    endsWithLine (entities ++ [entity]) =
      if entity.contributes then entity.isLine
      else endsWithLine entities := by
  cases contributes : entity.contributes <;>
    simp [endsWithLine, List.filter_append, contributes]

/-- After any entities the tool is engaged exactly if the last of them that
contributes is a line. -/
theorem engaged_afterAll_callsOf (entities : List Entity) :
    (Tool.initial.afterAll (callsOf entities)).engaged =
      endsWithLine entities := by
  induction entities using List.reverseRecOn with
  | nil => rfl
  | append_singleton entities entity hypothesis =>
      rw [callsOf_append, callsOf_cons, callsOf_nil, List.append_nil,
        Tool.afterAll_append, entity.engaged_afterAll, hypothesis,
        endsWithLine_concat]

/--
The blocks of entities that come after the entities `before`: the tool is
lifted after the first line of a block exactly if the block before it, empty
blocks aside, is that of a line.
-/
def joinBlocks
    (machine : MachineSettings)
    (before : List Entity) :
    List Entity → List ProgramLine
  | [] => []
  | entity :: entities =>
    liftAfterFirst machine (endsWithLine before) (entity.block machine)
      ++ joinBlocks machine (before ++ [entity]) entities

/-- Carrying out entities after others writes their blocks. -/
theorem writeAll_callsOf_eq_joinBlocks
    (machine : MachineSettings)
    (before entities : List Entity) :
    (Tool.initial.afterAll (callsOf before)).writeAll machine
        (callsOf entities) =
      joinBlocks machine before entities := by
  induction entities generalizing before with
  | nil => rfl
  | cons entity entities hypothesis =>
      have later := hypothesis (before ++ [entity])
      simp only [callsOf_append, callsOf_cons, callsOf_nil,
        List.append_nil, Tool.afterAll_append] at later
      rw [callsOf_cons, Tool.writeAll_append, later,
        entity.opening_calls.writeAll_eq, engaged_afterAll_callsOf]
      rfl

theorem Settings.body_programOf
    (settings : Settings)
    (entities : List Entity) :
    (settings.programOf entities).body =
      joinBlocks settings.machine [] entities :=
  writeAll_callsOf_eq_joinBlocks settings.machine [] entities

end Toolpath
