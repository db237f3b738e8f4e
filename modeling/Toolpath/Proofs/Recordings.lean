import Mathlib
import Toolpath.Motion.Recording
import Toolpath.Proofs.Position
import Toolpath.Proofs.Separators
import Toolpath.Proofs.ToolDiscipline

/-!
# Recorded emissions

A recording shows an emission as it is told, without what a tool does on its
own.  This module gives the grammar of such recordings.  They consist of one
block for each stretch, which is an entity or a chain of a polyline; a block
goes to where the stretch begins, cuts it, and ends with a separator.

The grammar implies what holds of recordings as a whole: the tool is started and
stopped by turns and goes nowhere in between.  Starting points, which are found
without an emission, agree with it: it begins at the starting point, is empty
where there is none, and fails where none is offered.
-/

namespace Toolpath

/-! ## The grammar of a block -/

/-- What is cut in one block. -/
inductive Stretch where
  | line (shape : Line)
  | circle (shape : Circle)
  | arc (shape : Arc)
  | chain (shape : Chain)

/-- The stretches of an entity, in the order in which they are cut. -/
def Entity.stretches : Entity → List Stretch
  | .line shape => [.line shape]
  | .circle shape => [.circle shape]
  | .arc shape => [.arc shape]
  | .ellipse _ => []
  | .polyline shape => shape.chains.map .chain

/-- Straight cuts to the given points, each followed by the same point as a
position. -/
inductive DrawsThrough : List Point → List Record → Prop where
  | nothing : DrawsThrough [] []
  | draw
      {point : Point}
      {points : List Point}
      {records : List Record}
      (further : DrawsThrough points records) :
      DrawsThrough (point :: points)
        (.draw point :: .setPosition point :: records)

namespace Stretch

/-- Where a stretch begins. -/
def first : Stretch → Point
  | line shape => shape.start
  | circle shape => shape.start
  | arc shape => shape.pointAt 0.0
  | chain shape => shape.first

/-- The records between the move to where a stretch begins and the separator
after it.  Only a line leaves it to others to start and stop the tool. -/
inductive Cuts (feed : Float) : Stretch → List Record → Prop where
  | line (shape : Line) : Cuts feed (.line shape) [.draw shape.finish]
  | circle (shape : Circle) :
      Cuts feed (.circle shape)
        [.start, .code (circleText shape.radius feed), .stop]
  | arc
      (shape : Arc)
      {first last : Point}
      (begins : first = shape.pointAt 0.0)
      (ends : last = shape.pointAt 1.0) :
      Cuts feed (.arc shape)
        [ .setPosition last,
          .start,
          .code (arcText last
            ⟨shape.center.x - first.x, shape.center.y - first.y⟩ feed),
          .stop ]
  | chain
      (shape : Chain)
      {drawn : List Record}
      (through : DrawsThrough shape.further drawn) :
      Cuts feed (.chain shape) (.start :: (drawn ++ [.stop]))

/-- A block with the given label in which a stretch is cut. -/
def IsRecordedAs
    (feed : Float)
    (label : String)
    (stretch : Stretch)
    (records : List Record) :
    Prop :=
  ∃ cut,
    records =
        .code (commentText label) :: .go stretch.first
          :: (cut ++ [.code ""]) ∧
      stretch.Cuts feed cut

end Stretch

theorem drawsThrough_drawThrough (feed : Float) (points : List Point) :
    DrawsThrough points ((drawThrough points).map (Call.record feed)) := by
  induction points with
  | nil => exact .nothing
  | cons point points hypothesis => exact .draw hypothesis

theorem Chain.isRecordedAs
    (feed : Float)
    (label : String)
    (chain : Chain) :
    (Stretch.chain chain).IsRecordedAs feed label
      ((chain.calls label).map (Call.record feed)) := by
  refine ⟨_, ?_, .chain chain (drawsThrough_drawThrough feed chain.further)⟩
  simp [Chain.calls, Call.record, Stretch.first]

/-- Every stretch of an entity has its block in the records of the emission, and
nothing else is recorded. -/
theorem Entity.exists_recorded_blocks
    (feed : Float)
    (entity : Entity) :
    ∃ blocks,
      entity.calls.map (Call.record feed) = blocks.flatten ∧
        List.Forall₂ (Stretch.IsRecordedAs feed entity.label)
          entity.stretches blocks := by
  refine ⟨entity.parts.map (List.map (Call.record feed)), ?_, ?_⟩
  · rw [← entity.flatten_parts, List.map_flatten]
  · cases entity with
    | line shape => exact .cons ⟨_, rfl, .line shape⟩ .nil
    | circle shape => exact .cons ⟨_, rfl, .circle shape⟩ .nil
    | arc shape => exact .cons ⟨_, rfl, .arc shape rfl rfl⟩ .nil
    | ellipse shape => exact .nil
    | polyline shape =>
        rw [stretches, parts, List.map_map, List.forall₂_map_left_iff,
          List.forall₂_map_right_iff, List.forall₂_same]
        intro chain _
        exact chain.isRecordedAs feed shape.label

/-! ## Starts and stops -/

namespace Record

/-- Whether a record starts the tool, for those that start or stop it. -/
def switch? : Record → Option Bool
  | start => some true
  | stop => some false
  | code _ | go _ | draw _ | setPosition _ => none

/-- Whether a record is a move to a point. -/
def isMove : Record → Bool
  | go _ | draw _ => true
  | code _ | start | stop | setPosition _ => false

end Record

/-- The tool is started and stopped by turns, and whenever it goes somewhere, it
has not been started since it was last stopped. -/
structure SwitchesByTurns (records : List Record) : Prop where
  alternate :
    ∃ count,
      records.filterMap Record.switch? =
        (List.replicate count [true, false]).flatten
  stopped_to_go :
    ∀ before target after,
      records = before ++ .go target :: after →
        (before.filterMap Record.switch?).getLast? ≠ some true

namespace SwitchesByTurns

theorem nil : SwitchesByTurns [] := by
  constructor
  case alternate => exact ⟨0, rfl⟩
  case stopped_to_go =>
    intro before target after split
    simp at split

/-- What switches by turns does not end with the tool started. -/
theorem getLast?_ne
    {records : List Record}
    (switches : SwitchesByTurns records) :
    (records.filterMap Record.switch?).getLast? ≠ some true := by
  rcases switches.alternate with ⟨count, alternate⟩
  rw [alternate]
  cases count with
  | zero => simp
  | succ count =>
      rw [List.replicate_succ', List.flatten_concat, List.getLast?_append]
      simp

theorem append
    {first second : List Record}
    (begins : SwitchesByTurns first)
    (continues : SwitchesByTurns second) :
    SwitchesByTurns (first ++ second) := by
  constructor
  case alternate =>
    rcases begins.alternate with ⟨count, alternate⟩
    rcases continues.alternate with ⟨further, alternateFurther⟩
    refine ⟨count + further, ?_⟩
    rw [List.filterMap_append, alternate, alternateFurther,
      List.replicate_add, List.flatten_append]
  case stopped_to_go =>
    intro before target after split
    rcases append_eq_append_cons_iff.mp split with
      ⟨middle, isFirst, -⟩ | ⟨earlier, isBefore, isSecond⟩
    · exact begins.stopped_to_go before target middle isFirst
    · have earlierStopped :=
        continues.stopped_to_go earlier target after isSecond
      rw [isBefore, List.filterMap_append, List.getLast?_append]
      -- The last switch is in the second part, if there is one, or else it is
      -- the last of the first part.
      cases last : (earlier.filterMap Record.switch?).getLast? with
      | none => exact begins.getLast?_ne
      | some engages =>
          rw [last] at earlierStopped
          exact earlierStopped

/-- A block goes somewhere before it starts the tool. -/
theorem of_block
    {remark target : Record}
    {further : List Record}
    (silent : remark.switch? = none)
    (going : target.switch? = none)
    (steady : ∀ point, .go point ∉ further)
    (balanced :
      further.filterMap Record.switch? = [] ∨
        further.filterMap Record.switch? = [true, false]) :
    SwitchesByTurns (remark :: target :: further) := by
  have switches :
      (remark :: target :: further).filterMap Record.switch? =
        further.filterMap Record.switch? := by
    rw [List.filterMap_cons_none silent, List.filterMap_cons_none going]
  constructor
  case alternate =>
    rw [switches]
    rcases balanced with none | once
    · exact ⟨0, none⟩
    · exact ⟨1, once⟩
  case stopped_to_go =>
    intro before point after split
    rcases before with - | ⟨first, - | ⟨second, before⟩⟩
    · simp
    · obtain ⟨same, -⟩ := List.cons.inj split
      subst same
      simp [silent]
    · have inside : .go point ∈ further := by
        obtain ⟨-, rest⟩ := List.cons.inj split
        obtain ⟨-, isFurther⟩ := List.cons.inj rest
        rw [isFurther]
        exact List.mem_append_right before List.mem_cons_self
      exact (steady point inside).elim

end SwitchesByTurns

namespace DrawsThrough

variable
  {points : List Point}
  {records : List Record}

theorem filterMap_switch? (draws : DrawsThrough points records) :
    records.filterMap Record.switch? = [] := by
  induction draws with
  | nothing => rfl
  | draw further hypothesis => exact hypothesis

theorem go_notMem (draws : DrawsThrough points records) (point : Point) :
    .go point ∉ records := by
  induction draws with
  | nothing => exact List.not_mem_nil
  | draw further hypothesis => simpa using hypothesis

end DrawsThrough

namespace Stretch

variable
  {feed : Float}
  {label : String}
  {stretch : Stretch}
  {records : List Record}

theorem Cuts.filterMap_switch? (cuts : stretch.Cuts feed records) :
    records.filterMap Record.switch? = [] ∨
      records.filterMap Record.switch? = [true, false] := by
  cases cuts with
  | line shape => exact Or.inl rfl
  | circle shape => exact Or.inr rfl
  | arc shape => exact Or.inr rfl
  | chain shape through =>
      right
      simp [Record.switch?, through.filterMap_switch?]

theorem Cuts.go_notMem (cuts : stretch.Cuts feed records) (point : Point) :
    .go point ∉ records := by
  cases cuts with
  | line shape => simp
  | circle shape => simp
  | arc shape => simp
  | chain shape through => simpa using through.go_notMem point

theorem IsRecordedAs.switchesByTurns
    (isRecorded : stretch.IsRecordedAs feed label records) :
    SwitchesByTurns records := by
  rcases isRecorded with ⟨cut, isBlock, cuts⟩
  subst isBlock
  apply SwitchesByTurns.of_block
  · rfl
  · rfl
  · intro point
    simpa using cuts.go_notMem point
  · have closing : [Record.code ""].filterMap Record.switch? = [] := rfl
    rw [List.filterMap_append, closing, List.append_nil]
    exact cuts.filterMap_switch?

theorem switchesByTurns_flatten
    {stretches : List Stretch}
    {blocks : List (List Record)}
    (each : List.Forall₂ (IsRecordedAs feed label) stretches blocks) :
    SwitchesByTurns blocks.flatten := by
  induction each with
  | nil => exact SwitchesByTurns.nil
  | cons isRecorded _ hypothesis =>
      rw [List.flatten_cons]
      exact isRecorded.switchesByTurns.append hypothesis

end Stretch

/-! ## Starting points -/

namespace Entity

/-- Only a polyline without chains is without geometry. -/
theorem exists_noGeometry_iff (entity : Entity) :
    (∃ label, entity.start? = .error (.noGeometry label)) ↔
      ∃ shape, entity = polyline shape ∧ shape.chains = [] := by
  cases entity with
  | line shape => simp [start?]
  | circle shape => simp [start?]
  | arc shape => simp [start?]
  | ellipse shape => simp [start?]
  | polyline shape =>
      cases chains : shape.chains <;> simp [start?, chains]

/-- Only ellipses do not offer a starting point. -/
theorem exists_notImplemented_iff (entity : Entity) :
    (∃ operation label,
      entity.start? = .error (.notImplemented operation label)) ↔
      ∃ shape, entity = ellipse shape := by
  cases entity with
  | line shape => simp [start?]
  | circle shape => simp [start?]
  | arc shape => simp [start?]
  | ellipse shape => simp [start?]
  | polyline shape =>
      cases chains : shape.chains <;> simp [start?, chains]

/-- The first stretch of an entity begins at its starting point. -/
theorem head?_stretches_of_start?
    {entity : Entity}
    {start : Point}
    (found : entity.start? = .ok start) :
    entity.stretches.head?.map Stretch.first = some start := by
  cases entity with
  | line shape =>
      cases found
      rfl
  | circle shape =>
      cases found
      rfl
  | arc shape =>
      cases found
      rfl
  | ellipse shape => cases found
  | polyline shape =>
      cases chains : shape.chains with
      | nil => simp [start?, chains] at found
      | cons chain further =>
          have same : chain.first = start := by
            simpa [start?, chains] using found
          simp [stretches, chains, Stretch.first, same]

end Entity

/-- Blocks begin with a move to where the first stretch begins. -/
theorem Stretch.find?_isMove_flatten
    {feed : Float}
    {label : String}
    {stretches : List Stretch}
    {blocks : List (List Record)}
    (each :
      List.Forall₂ (IsRecordedAs feed label) stretches blocks) :
    blocks.flatten.find? Record.isMove =
      (stretches.head?.map first).map .go := by
  cases each with
  | nil => rfl
  | cons isRecorded _ =>
      rcases isRecorded with ⟨cut, isBlock, -⟩
      subst isBlock
      rfl

/-! ## Recordings -/

theorem Call.position?_record (feed : Float) (call : Call) :
    (call.record feed).position? = call.told? := by
  cases call <;> rfl

namespace Recording

variable (feed : Float) (entity : Entity)

theorem records_ofEntity :
    (ofEntity feed entity).1.records =
      entity.calls.map (Call.record feed) := by
  cases entity <;> rfl

theorem records_ofEntity_eq_nil_iff :
    (ofEntity feed entity).1.records = [] ↔
      (∃ shape, entity = .ellipse shape) ∨
        (∃ shape, entity = .polyline shape ∧ shape.chains = []) := by
  rw [records_ofEntity, List.map_eq_nil_iff,
    ← entity.contributes_eq_false_iff]
  simp [Entity.contributes]

/-- The emission of an ellipse fails, and no other does. -/
theorem failure_ofEntity_iff {cause : EntityError} :
    (ofEntity feed entity).2 = some cause ↔
      ∃ shape, entity = .ellipse shape ∧
        cause = .notImplemented .emit shape.label := by
  cases entity <;> simp [ofEntity, Entity.calls?, eq_comm]

theorem failure_ofEntity_eq_none_iff :
    (ofEntity feed entity).2 = none ↔
      ¬ ∃ shape, entity = .ellipse shape := by
  cases entity <;> simp [ofEntity, Entity.calls?]

/-- The last position that a recording tells of is where the entity ends. -/
theorem position_ofEntity :
    (ofEntity feed entity).1.position = entity.finish? := by
  have last (records : List Record) :
      records.reverse.findSome? Record.position? =
        (records.filterMap Record.position?).getLast? := by
    rw [List.getLast?_eq_head?_reverse, ← List.filterMap_reverse,
      List.head?_filterMap]
  have told :
      (entity.calls.map (Call.record feed)).filterMap Record.position? =
        entity.calls.filterMap Call.told? := by
    rw [List.filterMap_map]
    exact congrArg (entity.calls.filterMap ·)
      (funext (Call.position?_record feed))
  have recorded :
      (ofEntity feed entity).1.position =
        ((entity.calls.map (Call.record feed)).filterMap
          Record.position?).getLast? := by
    cases entity with
    | ellipse shape => rfl
    | line shape => exact last _
    | circle shape => exact last _
    | arc shape => exact last _
    | polyline shape => exact last _
  rw [recorded, told]
  exact entity.lastPoint_told

end Recording

/--
The recording of an emission, and the error with which it failed if it did, when
they are as the entity demands.
-/
structure Recording.Follows
    (feed : Float)
    (entity : Entity)
    (recording : Recording)
    (failure : Option EntityError) :
    Prop where
  /-- The first move goes to the starting point. -/
  begins_at_start :
    ∀ start, entity.start? = .ok start →
      recording.records.find? Record.isMove = some (.go start)
  /-- Nothing is recorded, without an error, where there is no geometry. -/
  nothing_iff :
    failure = none ∧ recording.records = [] ↔
      ∃ label, entity.start? = .error (.noGeometry label)
  /-- The emission fails where a starting point is not offered. -/
  fails_iff :
    (∃ cause, failure = some cause) ↔
      ∃ operation label,
        entity.start? = .error (.notImplemented operation label)
  /-- An emission that fails says so before it makes any call. -/
  failure_silent :
    ∀ cause, failure = some cause →
      cause = .notImplemented .emit entity.label ∧ recording.records = []
  /-- The records are blocks, one for each stretch of the entity. -/
  blocks :
    ∃ blocks,
      recording.records = blocks.flatten ∧
        List.Forall₂ (Stretch.IsRecordedAs feed entity.label)
          entity.stretches blocks
  switches : SwitchesByTurns recording.records
  /-- The recording ends where the entity does, and tells of no position if
  there is nothing to cut. -/
  ends_at_finish : recording.position = entity.finish?

/-- Every emission, at any feed, follows the grammar of recordings, and it
begins, is empty or fails as the starting point of the entity says. -/
theorem emission_follows
    (feed : Float)
    (entity : Entity) :
    Recording.Follows feed entity
      (Recording.ofEntity feed entity).1
      (Recording.ofEntity feed entity).2 := by
  have records := Recording.records_ofEntity feed entity
  rcases entity.exists_recorded_blocks feed with ⟨blocks, isBlocks, each⟩
  constructor
  case begins_at_start =>
    intro start found
    have begins := Entity.head?_stretches_of_start? found
    rw [records, isBlocks, Stretch.find?_isMove_flatten each, begins]
    rfl
  case nothing_iff =>
    rw [Recording.failure_ofEntity_eq_none_iff,
      Recording.records_ofEntity_eq_nil_iff, entity.exists_noGeometry_iff]
    constructor
    · rintro ⟨cuttable, ellipse | chainless⟩
      · exact (cuttable ellipse).elim
      · exact chainless
    · rintro ⟨shape, isPolyline, chainless⟩
      refine ⟨?_, Or.inr ⟨shape, isPolyline, chainless⟩⟩
      rintro ⟨other, isEllipse⟩
      rw [isPolyline] at isEllipse
      cases isEllipse
  case fails_iff =>
    rw [entity.exists_notImplemented_iff]
    simp [Recording.failure_ofEntity_iff]
  case failure_silent =>
    intro cause fails
    rcases (Recording.failure_ofEntity_iff feed entity).mp fails with
      ⟨shape, isEllipse, isCause⟩
    subst isEllipse
    exact ⟨isCause, rfl⟩
  case blocks => exact ⟨blocks, records.trans isBlocks, each⟩
  case switches =>
    rw [records, isBlocks]
    exact Stretch.switchesByTurns_flatten each
  case ends_at_finish => exact Recording.position_ofEntity feed entity

end Toolpath
