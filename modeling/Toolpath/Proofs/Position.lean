import Toolpath.Program.Session
import Toolpath.Proofs.Blocks
import Toolpath.Proofs.MotionWords

/-!
# Positions and program text

A tool keeps track of its position while it writes lines, and it is told of the
one apart from the other: an arc records where it will lead before it is cut,
the line of a circle holds no coordinates, and a polyline records every point
twice.  This module proves that the two agree whenever an entity has been
carried out.  The position is then where the last entity that contributes lines
ends, and the last coordinates in the text are those of the position.

Within an entity the two may differ.  So they are compared as two views of its
calls, of which only the last points have to be the same.
-/

namespace Toolpath

/-! ## Coordinates in lines -/

/-- What the words of a line say after a letter, in the first word that begins
with it. -/
def valueAfter? (letter : Char) : List (List Char) → Option (List Char)
  | [] => none
  | [] :: words => valueAfter? letter words
  | (first :: value) :: words =>
    if first = letter then some value else valueAfter? letter words

/-- A point as its coordinates are written, to two decimal places. -/
def Point.written (point : Point) : Location (List Char) :=
  point.location.map Number.fixedCharacters

namespace ProgramLine

/-- Whether a line is written by a move or a round cut. -/
def isMove : ProgramLine → Bool
  | rapid _ | cut _ _ | arc _ _ _ | circle _ _ => true
  | comment _ | blank | code _ | spindleOn _ | spindleOff _ | dwell _ => false

/-- What the text of a move or a round cut says after X and after Y, if it says
both. -/
def coordinates? (line : ProgramLine) : Option (Location (List Char)) :=
  if line.isMove then
    let words := line.text.toList.splitOn ' '
    match valueAfter? 'X' words, valueAfter? 'Y' words with
    | some x, some y => some ⟨x, y⟩
    | _, _ => none
  else none

/-- The point that a line is written for. -/
def target? : ProgramLine → Option Point
  | rapid target | cut target _ | arc target _ _ => some target
  | _ => none

/-- The text of a move or a round cut is cut into its words. -/
theorem splitOn_text
    (line : ProgramLine)
    (moves : line.isMove = true) :
    line.text.toList.splitOn ' ' = line.words := by
  have nonempty : line.words ≠ [] := by
    cases line <;> first | exact List.cons_ne_nil _ _ | cases moves
  rw [toList_text_eq_words nonempty]
  exact List.splitOn_intercalate ' ' line.blank_notMem_words nonempty

/-- Lines that are written for a point give its coordinates, and no other line
gives any. -/
theorem coordinates?_eq (line : ProgramLine) :
    line.coordinates? = line.target?.map Point.written := by
  cases line with
  | rapid target =>
      rw [coordinates?, splitOn_text _ rfl]
      rfl
  | cut target feed =>
      rw [coordinates?, splitOn_text _ rfl]
      rfl
  | arc target offset feed =>
      rw [coordinates?, splitOn_text _ rfl]
      rfl
  | circle radius feed =>
      rw [coordinates?, splitOn_text _ rfl]
      rfl
  | comment text => rfl
  | blank => rfl
  | code text => rfl
  | spindleOn word => rfl
  | spindleOff word => rfl
  | dwell milliseconds => rfl

end ProgramLine

/-- The last coordinates that are found in the text of some lines. -/
def lastCoordinates (lines : List ProgramLine) :
    Option (Location (List Char)) :=
  (lines.filterMap ProgramLine.coordinates?).getLast?

theorem lastCoordinates_append (first second : List ProgramLine) :
    lastCoordinates (first ++ second) =
      (lastCoordinates second).or (lastCoordinates first) := by
  rw [lastCoordinates, List.filterMap_append, List.getLast?_append]
  rfl

/-! ## Two views of calls -/

namespace Call

/-- The position that a call tells the tool. -/
def told? : Call → Option Point
  | go target | draw target | setPosition target => some target
  | comment _ | separator | code _ | arc _ _ | circle _ | start | stop => none

/-- The point that a call writes into the program. -/
def target? : Call → Option Point
  | go target | draw target | arc target _ => some target
  | comment _ | separator | code _ | circle _ | start | stop
  | setPosition _ => none

end Call

/-- The last point in a view of some calls. -/
def lastPoint (view : Call → Option Point) (calls : List Call) :
    Option Point :=
  (calls.filterMap view).getLast?

section View

variable (view : Call → Option Point)

theorem lastPoint_append (first second : List Call) :
    lastPoint view (first ++ second) =
      (lastPoint view second).or (lastPoint view first) := by
  rw [lastPoint, List.filterMap_append, List.getLast?_append]
  rfl

theorem lastPoint_cons (call : Call) (calls : List Call) :
    lastPoint view (call :: calls) =
      (lastPoint view calls).or (view call) := by
  rw [← List.singleton_append, lastPoint_append]
  cases point : view call <;> simp [lastPoint, point]

/-- Calls in parts, each of which ends at some point, end where the last part
does. -/
theorem lastPoint_flatMap
    {Part : Type}
    {callsOfPart : Part → List Call}
    {finish : Part → Point}
    (ends : ∀ part, lastPoint view (callsOfPart part) = some (finish part))
    (parts : List Part) :
    lastPoint view (parts.flatMap callsOfPart) =
      parts.getLast?.map finish := by
  induction parts using List.reverseRecOn with
  | nil => rfl
  | append_singleton parts part _ =>
      rw [List.flatMap_append, List.flatMap_singleton, lastPoint_append,
        ends, List.getLast?_concat, Option.some_or, Option.map_some]

end View

namespace Tool

theorem position_after (tool : Tool) (call : Call) :
    (tool.after call).position = call.told?.or tool.position := by
  cases call <;> rfl

/-- After some calls, the tool is where they last told it to be. -/
theorem position_afterAll_eq_lastPoint
    (tool : Tool)
    (calls : List Call) :
    (tool.afterAll calls).position =
      (lastPoint Call.told? calls).or tool.position := by
  induction calls generalizing tool with
  | nil => rfl
  | cons call calls hypothesis =>
      rw [afterAll_cons, hypothesis, position_after, lastPoint_cons,
        Option.or_assoc]

/-- Where the tool was before matters only to calls that do not move it. -/
theorem position_afterAll (tool : Tool) (calls : List Call) :
    (tool.afterAll calls).position =
      (initial.afterAll calls).position.or tool.position := by
  rw [position_afterAll_eq_lastPoint tool,
    position_afterAll_eq_lastPoint initial, initial, Option.or_none]

/-- A call writes a line for its target and for no other point: the words that
switch the tool and the waits have none. -/
theorem targets_write
    (machine : MachineSettings)
    (tool : Tool)
    (call : Call) :
    (tool.write machine call).filterMap ProgramLine.target? =
      call.target?.toList := by
  have waits :
      ∀ milliseconds,
        (dwellLines milliseconds).filterMap ProgramLine.target? = [] := by
    intro milliseconds
    rw [dwellLines]
    split <;> rfl
  have engages :
      machine.engageLines.filterMap ProgramLine.target? = [] :=
    waits machine.startDelay
  have lifts :
      machine.liftLines.filterMap ProgramLine.target? = [] :=
    waits machine.stopDelay
  cases call with
  | go target =>
      cases engaged : tool.engaged <;>
        simp [write, engaged, lifts, ProgramLine.target?, Call.target?]
  | draw target =>
      cases engaged : tool.engaged <;>
        simp [write, engaged, engages, ProgramLine.target?, Call.target?]
  | start => exact engages
  | stop => exact lifts
  | comment text => rfl
  | separator => rfl
  | code text => rfl
  | arc target offset => rfl
  | circle radius => rfl
  | setPosition position => rfl

theorem targets_writeAll
    (machine : MachineSettings)
    (tool : Tool)
    (calls : List Call) :
    (tool.writeAll machine calls).filterMap ProgramLine.target? =
      calls.filterMap Call.target? := by
  induction calls generalizing tool with
  | nil => rfl
  | cons call calls hypothesis =>
      rw [writeAll, List.filterMap_append, targets_write, hypothesis]
      cases target : call.target? <;> simp [target]

/-- The last coordinates that some calls write are those of their last
target. -/
theorem lastCoordinates_writeAll
    (machine : MachineSettings)
    (tool : Tool)
    (calls : List Call) :
    lastCoordinates (tool.writeAll machine calls) =
      (lastPoint Call.target? calls).map Point.written := by
  have coordinates :
      (tool.writeAll machine calls).filterMap ProgramLine.coordinates? =
        (calls.filterMap Call.target?).map Point.written := by
    rw [← targets_writeAll machine tool calls, List.map_filterMap,
      funext ProgramLine.coordinates?_eq]
  rw [lastCoordinates, coordinates, List.getLast?_map, lastPoint]

end Tool

/-! ## Where entities end -/

/-- Where cutting an entity ends. -/
def Entity.finish? : Entity → Option Point
  | .line shape => some shape.finish
  | .circle shape => some shape.start
  | .arc shape => some (shape.pointAt 1.0)
  | .ellipse _ => none
  | .polyline shape => shape.chains.getLast?.map Chain.last

theorem Entity.isSome_finish? (entity : Entity) :
    entity.finish?.isSome = entity.contributes := by
  cases entity with
  | line shape => rfl
  | circle shape => rfl
  | arc shape => rfl
  | ellipse shape => rfl
  | polyline shape =>
      cases chains : shape.chains <;>
        simp [finish?, contributes, PolyLine.calls, Chain.calls, chains]

theorem Chain.getLast?_points (chain : Chain) :
    (chain.first :: chain.further).getLast? = some chain.last := by
  rw [chain.first_cons_further]
  exact List.getLast?_eq_some_getLast _

/-- A view of calls in which a chain ends at its last point. -/
theorem Chain.lastPoint_calls
    {view : Call → Option Point}
    (opens :
      ∀ label start,
        lastPoint view [.comment label, .go start, .start] = some start)
    (cuts :
      ∀ target,
        lastPoint view [.draw target, .setPosition target] = some target)
    (closes : lastPoint view [.stop, .separator] = none)
    (label : String)
    (chain : Chain) :
    lastPoint view (chain.calls label) = some chain.last := by
  -- The last of the further points counts; without any it would be the first.
  have drawn : lastPoint view (drawThrough chain.further) =
      chain.further.getLast? := by
    rw [drawThrough, lastPoint_flatMap view cuts, Option.map_id']
  have last := chain.getLast?_points
  rw [List.getLast?_cons] at last
  rw [Chain.calls, lastPoint_append, lastPoint_append, closes, opens, drawn,
    Option.none_or, ← last]
  cases chain.further.getLast? <;> rfl

namespace Entity

/-- The last position that an entity tells the tool is where it ends. -/
theorem lastPoint_told (entity : Entity) :
    lastPoint Call.told? entity.calls = entity.finish? := by
  cases entity with
  | line shape => rfl
  | circle shape => rfl
  | arc shape => rfl
  | ellipse shape => rfl
  | polyline shape =>
      apply lastPoint_flatMap
      apply Chain.lastPoint_calls
      · intro label start
        rfl
      · intro target
        rfl
      · rfl

/-- The last point that an entity writes is where it ends. -/
theorem lastPoint_target (entity : Entity) :
    lastPoint Call.target? entity.calls = entity.finish? := by
  cases entity with
  | line shape => rfl
  | circle shape => rfl
  | arc shape => rfl
  | ellipse shape => rfl
  | polyline shape =>
      apply lastPoint_flatMap
      apply Chain.lastPoint_calls
      · intro label start
        rfl
      · intro target
        rfl
      · rfl

end Entity

/-! ## Runs of emissions -/

/-- An emission that succeeds carries out the calls of its entity, and one that
fails has none to carry out. -/
theorem Session.emit_eq_perform
    (machine : MachineSettings)
    (session : Session)
    (entity : Entity) :
    (session.emit machine entity).1 =
      session.perform machine entity.calls := by
  rw [emit, Entity.calls]
  cases entity.calls? with
  | ok calls => rfl
  | error cause => simp [perform, Tool.writeAll]

theorem Session.run_emit
    (machine : MachineSettings)
    (session : Session)
    (entities : List Entity) :
    session.run machine (entities.map .emit) =
      session.perform machine (callsOf entities) := by
  induction entities generalizing session with
  | nil => simp [run, perform, Tool.writeAll]
  | cons entity entities hypothesis =>
      have first :
          session.run machine [.emit entity] =
            session.perform machine entity.calls :=
        session.emit_eq_perform machine entity
      rw [List.map_cons, ← List.singleton_append, run_append, first,
        hypothesis, callsOf_cons, perform_append]

/--
The position of a tool and the lines that it has written, when they agree after
the emission of the given entities.
-/
structure PositionAgrees
    (emitted : List Entity)
    (position : Option Point)
    (lines : List ProgramLine) :
    Prop where
  /-- There is no position as long as nothing is written. -/
  nowhere_iff_unwritten : position = none ↔ lines = []
  /-- There is no position as long as no entity contributes lines. -/
  nowhere_iff_unmoved :
    position = none ↔ ∀ entity ∈ emitted, entity.contributes = false
  /-- The position is where the last entity that contributes lines ends. -/
  at_finish :
    ∀ entity, (emitted.filter Entity.contributes).getLast? = some entity →
      position = entity.finish?
  /-- The last coordinates in the text are those of the position, to two
  decimal places. -/
  read_back : lastCoordinates lines = position.map Point.written

theorem PositionAgrees.initial :
    PositionAgrees [] Session.initial.tool.position
      Session.initial.lines := by
  constructor
  case nowhere_iff_unwritten => exact iff_of_true rfl rfl
  case nowhere_iff_unmoved => simp [Session.initial, Tool.initial]
  case at_finish => simp
  case read_back => rfl

/-- An entity that contributes nothing may be added. -/
theorem PositionAgrees.append_idle
    {emitted : List Entity}
    {position : Option Point}
    {lines : List ProgramLine}
    (agrees : PositionAgrees emitted position lines)
    {entity : Entity}
    (idle : entity.contributes = false) :
    PositionAgrees (emitted ++ [entity]) position lines := by
  have same :
      (emitted ++ [entity]).filter Entity.contributes =
        emitted.filter Entity.contributes := by
    simp [List.filter_append, idle]
  constructor
  case nowhere_iff_unwritten => exact agrees.nowhere_iff_unwritten
  case nowhere_iff_unmoved =>
    rw [agrees.nowhere_iff_unmoved, List.forall_mem_append,
      List.forall_mem_singleton, idle]
    simp
  case at_finish =>
    rw [same]
    exact agrees.at_finish
  case read_back => exact agrees.read_back

/-- Whatever was emitted before, position and lines agree where both are at the
end of an entity that contributes. -/
theorem PositionAgrees.of_finish
    (emitted : List Entity)
    {entity : Entity}
    {finish : Point}
    {lines : List ProgramLine}
    (ends : entity.finish? = some finish)
    (coordinates : lastCoordinates lines = some finish.written) :
    PositionAgrees (emitted ++ [entity]) (some finish) lines := by
  have contributes : entity.contributes = true := by
    rw [← entity.isSome_finish?, ends, Option.isSome_some]
  have written : lines ≠ [] := by
    rintro rfl
    cases coordinates
  constructor
  case nowhere_iff_unwritten => simp [written]
  case nowhere_iff_unmoved => simp [contributes]
  case at_finish =>
    intro last isLast
    have same : entity = last := by
      simpa [List.filter_append, contributes] using isLast
    rw [← same, ends]
  case read_back => exact coordinates

/-- Emitting one more entity keeps position and lines in agreement. -/
theorem PositionAgrees.emit
    {emitted : List Entity}
    {session : Session}
    (agrees :
      PositionAgrees emitted session.tool.position session.lines)
    (machine : MachineSettings)
    (entity : Entity) :
    PositionAgrees (emitted ++ [entity])
      (session.emit machine entity).1.tool.position
      (session.emit machine entity).1.lines := by
  rw [Session.emit_eq_perform]
  cases ends : entity.finish? with
  | none =>
      have idle : entity.contributes = false := by
        rw [← entity.isSome_finish?, ends, Option.isSome_none]
      have nothing : entity.calls = [] := by
        simpa [Entity.contributes] using idle
      have unchanged : session.perform machine entity.calls = session := by
        simp [Session.perform, nothing, Tool.writeAll]
      rw [unchanged]
      exact agrees.append_idle idle
  | some finish =>
      have position :
          (session.perform machine entity.calls).tool.position =
            some finish := by
        rw [Session.perform, Tool.position_afterAll_eq_lastPoint,
          entity.lastPoint_told, ends, Option.some_or]
      have coordinates :
          lastCoordinates (session.perform machine entity.calls).lines =
            some finish.written := by
        rw [Session.perform, lastCoordinates_append,
          Tool.lastCoordinates_writeAll, entity.lastPoint_target, ends,
          Option.map_some, Option.some_or]
      rw [position]
      exact PositionAgrees.of_finish emitted ends coordinates

/-- After any run of emissions, failing ones included, position and lines
agree. -/
theorem Session.positionAgrees_run
    (machine : MachineSettings)
    (emitted : List Entity) :
    PositionAgrees emitted
      (initial.run machine (emitted.map .emit)).tool.position
      (initial.run machine (emitted.map .emit)).lines := by
  induction emitted using List.reverseRecOn with
  | nil => exact PositionAgrees.initial
  | append_singleton emitted entity hypothesis =>
      rw [List.map_append, run_append]
      exact hypothesis.emit machine entity

/--
The position of a program, and that of a session in which any entities have been
emitted on any machine, is where the last entity that contributed lines ends.
It is the one that is read off the last of the lines that give coordinates.
-/
theorem position_agrees_with_text :
    (∀ (valid : ValidSettings) (entities : List Entity)
        (program : Program),
      valid.compile entities = .ok program →
      PositionAgrees (valid.settings.arrange entities)
        program.position program.body) ∧
    ∀ (machine : MachineSettings) (emitted : List Entity),
      PositionAgrees emitted
        (Session.initial.run machine (emitted.map .emit)).tool.position
        (Session.initial.run machine (emitted.map .emit)).lines := by
  constructor
  · intro valid entities program compiled
    obtain ⟨-, rfl⟩ := ValidSettings.compile_eq_ok_iff.mp compiled
    have agrees := Session.positionAgrees_run valid.settings.machine
      (valid.settings.arrange entities)
    rw [Session.run_emit] at agrees
    exact agrees
  · exact Session.positionAgrees_run

/-- The program of a drawing that ends with a polyline without chains, which
leaves the position at the end of the line before it. -/
theorem sample_position_agrees :
    ∃ program,
      Sample.settings.compile Sample.drawing = .ok program ∧
        program.position = some ⟨3.0, 4.0⟩ ∧
        lastCoordinates program.body =
          some (Point.written ⟨3.0, 4.0⟩) := by
  have agrees :=
    position_agrees_with_text.1 Sample.settings Sample.drawing _ rfl
  refine ⟨_, rfl, agrees.at_finish Sample.line rfl, ?_⟩
  rw [agrees.read_back, agrees.at_finish Sample.line rfl]
  rfl

end Toolpath
