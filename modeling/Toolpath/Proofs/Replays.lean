import Mathlib
import Toolpath.Proofs.Recordings
import Toolpath.Proofs.SessionAccount

/-!
# Recordings carried out by a session

A recording keeps the calls of an emission as they are made, and a session
carries them out with switches of its own.  This module proves that the two see
the same emission: a session in any state that makes the recorded calls one by
one comes to show what it shows when it emits the entity itself.

It also says where a session adds switches.  A tool that is found engaged is
stopped before it first goes somewhere, and the cut of a line starts the tool.
All other switches have been recorded.
-/

namespace Toolpath

/-! ## Recorded calls -/

/-- The call that makes a recorded one again. -/
def Record.call : Record → Call
  | code text => .code text
  | go target => .go target
  | draw target => .draw target
  | start => .start
  | stop => .stop
  | setPosition position => .setPosition position

/-- The calls that make a recording again. -/
def Recording.calls (recording : Recording) : List Call :=
  recording.records.map Record.call

/-- What a session shows: the state of its tool, and its lines as they are
written. -/
def Session.view (session : Session) : Tool × List String :=
  (session.tool, session.lines.map ProgramLine.text)

namespace Call

/-- A call as it is made again after it has been recorded: remarks, separators
and round cuts have become lines of code. -/
def again (feed : Float) (call : Call) : Call := (call.record feed).call

/-- Whether a call is a move without cutting. -/
def isGo : Call → Bool
  | go _ => true
  | comment _ | separator | code _ | draw _ | arc _ _ | circle _ | start
  | stop | setPosition _ => false

/-- Whether a call is a straight cut. -/
def isDraw : Call → Bool
  | draw _ => true
  | comment _ | separator | code _ | go _ | arc _ _ | circle _ | start
  | stop | setPosition _ => false

variable (feed : Float) (call : Call)

theorem isGo_again : (call.again feed).isGo = call.isGo := by
  cases call <;> rfl

theorem isDraw_again : (call.again feed).isDraw = call.isDraw := by
  cases call <;> rfl

/-- A call that is made again is written as it was, if the machine has the feed
of the recording. -/
theorem map_text_lines_again (machine : MachineSettings) :
    ((call.again machine.feed).lines machine).map ProgramLine.text =
      (call.lines machine).map ProgramLine.text := by
  cases call <;> rfl

end Call

theorem Recording.calls_ofEntity (feed : Float) (entity : Entity) :
    (ofEntity feed entity).1.calls = entity.calls.map (Call.again feed) := by
  rw [calls, records_ofEntity, List.map_map]
  rfl

/-! ## Made again by a tool -/

namespace Tool

variable (feed : Float)

theorem after_again (tool : Tool) (call : Call) :
    tool.after (call.again feed) = tool.after call := by
  cases call <;> rfl

theorem afterAll_map_again (tool : Tool) (calls : List Call) :
    tool.afterAll (calls.map (Call.again feed)) = tool.afterAll calls := by
  induction calls generalizing tool with
  | nil => rfl
  | cons call calls hypothesis =>
      rw [List.map_cons, afterAll_cons, afterAll_cons, after_again, hypothesis]

/-- The switches that a tool adds to calls are those that it adds to the same
calls made again. -/
theorem executeAll_map_again (tool : Tool) (calls : List Call) :
    tool.executeAll (calls.map (Call.again feed)) =
      (tool.executeAll calls).map (Call.again feed) := by
  induction calls generalizing tool with
  | nil => rfl
  | cons call calls hypothesis =>
      have first :
          tool.execute (call.again feed) =
            (tool.execute call).map (Call.again feed) := by
        cases call with
        | go target =>
            cases engaged : tool.engaged <;>
              simp [execute, engaged, Call.again, Call.record, Record.call]
        | draw target =>
            cases engaged : tool.engaged <;>
              simp [execute, engaged, Call.again, Call.record, Record.call]
        | _ => rfl
      rw [List.map_cons, executeAll, executeAll, List.map_append, first,
        after_again, hypothesis]

/-- Calls that are made again are written as they were. -/
theorem map_text_writeAll_again
    (machine : MachineSettings)
    (tool : Tool)
    (calls : List Call) :
    (tool.writeAll machine (calls.map (Call.again machine.feed))).map
        ProgramLine.text =
      (tool.writeAll machine calls).map ProgramLine.text := by
  rw [writeAll_eq_flatMap_executeAll, writeAll_eq_flatMap_executeAll,
    executeAll_map_again, List.map_flatMap, List.map_flatMap,
    List.flatMap_map]
  exact List.flatMap_congr fun call _ => call.map_text_lines_again machine

end Tool

/-! ## Added switches -/

section Insertion

variable {Element : Type} (chosen : Element → Bool)

/-- Some elements put in before the first one that is chosen.  Nothing is put in
if none is chosen. -/
def insertBefore (added : List Element) : List Element → List Element
  | [] => []
  | element :: elements =>
    if chosen element then added ++ element :: elements
    else element :: insertBefore added elements

theorem insertBefore_nil (elements : List Element) :
    insertBefore chosen [] elements = elements := by
  induction elements with
  | nil => rfl
  | cons element elements hypothesis => simp [insertBefore, hypothesis]

theorem insertBefore_perm
    {elements : List Element}
    (occurs : elements.any chosen = true)
    (added : List Element) :
    (insertBefore chosen added elements).Perm (added ++ elements) := by
  induction elements with
  | nil => cases occurs
  | cons element elements hypothesis =>
      cases here : chosen element with
      | true => simp [insertBefore, here]
      | false =>
          have later : elements.any chosen = true := by
            simpa [here] using occurs
          have further := (hypothesis later).cons element
          simpa [insertBefore, here] using
            further.trans List.perm_middle.symm

theorem map_insertBefore
    {change : Element → Element}
    (keeps : ∀ element, chosen (change element) = chosen element)
    (added elements : List Element) :
    (insertBefore chosen added elements).map change =
      insertBefore chosen (added.map change) (elements.map change) := by
  induction elements with
  | nil => rfl
  | cons element elements hypothesis =>
      cases here : chosen element <;>
        simp [insertBefore, here, keeps, hypothesis]

end Insertion

/-- The calls of an emission with the switches that its moves bring about, when
the tool is found engaged or lifted: it is stopped before it first goes
somewhere, and started before a line is cut. -/
def Entity.switched
    (entity : Entity)
    (engaged : Bool)
    (calls : List Call) :
    List Call :=
  insertBefore Call.isGo (if engaged then [.stop] else [])
    (insertBefore Call.isDraw (if entity.isLine then [.start] else []) calls)

theorem Tool.executeAll_drawThrough
    {tool : Tool}
    (engaged : tool.engaged = true)
    (points : List Point) :
    tool.executeAll (drawThrough points) = drawThrough points := by
  induction points generalizing tool with
  | nil => rfl
  | cons point points hypothesis =>
      have further :=
        @hypothesis ((tool.after (.draw point)).after (.setPosition point)) rfl
      rw [drawThrough, List.flatMap_cons, executeAll_append]
      simp only [executeAll, execute, engaged, if_true, afterAll_cons,
        afterAll_nil]
      exact congrArg _ further

theorem Chain.executeAll_calls
    (chain : Chain)
    (label : String)
    (tool : Tool) :
    tool.executeAll (chain.calls label) =
      insertBefore Call.isGo (if tool.engaged then [.stop] else [])
        (chain.calls label) := by
  have drawn (position : Option Point) :
      (Tool.mk true position).executeAll (drawThrough chain.further) =
        drawThrough chain.further :=
    Tool.executeAll_drawThrough rfl chain.further
  cases engaged : tool.engaged <;>
    simp [calls, Tool.executeAll_append, Tool.executeAll, Tool.execute,
      Tool.after, insertBefore, Call.isGo, engaged, drawn]

theorem executeAll_flatMap_calls
    (label : String)
    (chains : List Chain)
    (tool : Tool) :
    tool.executeAll (chains.flatMap (Chain.calls label)) =
      insertBefore Call.isGo (if tool.engaged then [.stop] else [])
        (chains.flatMap (Chain.calls label)) := by
  induction chains generalizing tool with
  | nil => rfl
  | cons chain chains hypothesis =>
      have lifted := chain.engaged_afterAll label tool
      have further :
          (tool.afterAll (chain.calls label)).executeAll
              (chains.flatMap (Chain.calls label)) =
            chains.flatMap (Chain.calls label) := by
        rw [hypothesis, lifted]
        exact insertBefore_nil _ _
      rw [List.flatMap_cons, Tool.executeAll_append, chain.executeAll_calls,
        further]
      simp [Chain.calls, insertBefore, Call.isGo]

namespace Entity

/-- A tool adds to the calls of an entity the switches that its moves bring
about, and no others. -/
theorem executeAll_calls (entity : Entity) (tool : Tool) :
    tool.executeAll entity.calls =
      entity.switched tool.engaged entity.calls := by
  cases entity with
  | line shape =>
      cases engaged : tool.engaged <;>
        simp [switched, Line.calls, isLine, Tool.executeAll, Tool.execute,
          Tool.after, insertBefore, Call.isGo, Call.isDraw, engaged]
  | circle shape =>
      cases engaged : tool.engaged <;>
        simp [switched, Circle.calls, isLine, Tool.executeAll, Tool.execute,
          Tool.after, insertBefore, Call.isGo, Call.isDraw, engaged]
  | arc shape =>
      cases engaged : tool.engaged <;>
        simp [switched, Arc.calls, isLine, Tool.executeAll, Tool.execute,
          Tool.after, insertBefore, Call.isGo, Call.isDraw, engaged]
  | ellipse shape => rfl
  | polyline shape =>
      have uncut : (polyline shape).isLine = false := rfl
      rw [switched, uncut]
      simp only [Bool.false_eq_true, if_false, insertBefore_nil]
      exact executeAll_flatMap_calls shape.label shape.chains tool

theorem map_again_switched
    (feed : Float)
    (entity : Entity)
    (engaged : Bool)
    (calls : List Call) :
    (entity.switched engaged calls).map (Call.again feed) =
      entity.switched engaged (calls.map (Call.again feed)) := by
  rw [switched, switched, map_insertBefore _ (Call.isGo_again feed),
    map_insertBefore _ (Call.isDraw_again feed)]
  cases engaged <;> cases entity.isLine <;> rfl

theorem any_isGo_calls (entity : Entity) :
    entity.calls.any Call.isGo = entity.contributes := by
  have opening := entity.opening_calls
  rw [contributes]
  generalize entity.calls = calls at opening ⊢
  cases opening with
  | empty => rfl
  | block text target further => simp [Call.isGo]

/-- A line starts the tool before its cut, and no other entity does so. -/
theorem insertBefore_isDraw_perm (entity : Entity) :
    (insertBefore Call.isDraw (if entity.isLine then [.start] else [])
        entity.calls).Perm
      ((if entity.isLine then [.start] else []) ++ entity.calls) := by
  cases entity with
  | line shape =>
      apply insertBefore_perm
      simp [Line.calls, Call.isDraw]
  | _ =>
      simp only [isLine, Bool.false_eq_true, if_false, insertBefore_nil]
      exact List.Perm.refl _

/-- The switches that are added: a stop if the tool is found engaged and there
is anything to do, and a start for a line. -/
theorem switched_perm (entity : Entity) (engaged : Bool) :
    (entity.switched engaged entity.calls).Perm
      ((if engaged && entity.contributes then [.stop] else [])
        ++ ((if entity.isLine then [.start] else []) ++ entity.calls)) := by
  have cuts := entity.insertBefore_isDraw_perm
  have goes := cuts.any_eq.trans (List.any_append (f := Call.isGo))
  rw [entity.any_isGo_calls] at goes
  rw [switched]
  cases engaged with
  | false =>
      simp only [Bool.false_eq_true, Bool.false_and, if_false, insertBefore_nil,
        List.nil_append]
      exact cuts
  | true =>
      cases contributes : entity.contributes with
      | true =>
          rw [contributes, Bool.or_true] at goes
          have stops := insertBefore_perm Call.isGo goes [.stop]
          exact stops.trans (cuts.append_left [.stop])
      | false =>
          have silent : entity.calls = [] := by
            simpa [Entity.contributes] using contributes
          rw [silent] at cuts ⊢
          exact cuts

end Entity

/-! ## The two views of an emission -/

/-- Calls that are made one by one are carried out together. -/
theorem Session.run_map_call
    (machine : MachineSettings)
    (session : Session)
    (calls : List Call) :
    session.run machine (calls.map .call) = session.perform machine calls := by
  have single :
      (fun call => SessionStep.calls (.call call)) = fun call => [call] := rfl
  rw [run_eq_perform, List.flatMap_map, single, List.flatMap_singleton']

/--
A session that emits an entity and the recording of this emission, which has
ended with the given failure if there was one, are about the same calls.
-/
structure Session.Reproduces
    (machine : MachineSettings)
    (session : Session)
    (entity : Entity)
    (recording : Recording)
    (failure : Option EntityError) :
    Prop where
  /-- To make the recorded calls one by one leads to what the emission leads
  to. -/
  view_eq :
    (session.emit machine entity).1.view =
      (session.run machine (recording.calls.map .call)).view
  /-- The emission ends with the same error, if with any. -/
  failure_eq : (session.emit machine entity).2 = failure
  /-- The lines are those of the recorded calls and of the added switches: one
  for each call that is no switch and does not merely tell a position, and the
  word and the wait of each switch. -/
  lines_eq :
    (session.emit machine entity).1.lines.map ProgramLine.text =
      session.lines.map ProgramLine.text
        ++ (entity.switched session.tool.engaged recording.calls).flatMap
          fun call => (call.lines machine).map ProgramLine.text
  /-- Nothing is executed but the recorded calls and these switches. -/
  executed_eq :
    session.tool.executeAll recording.calls =
      entity.switched session.tool.engaged recording.calls
  /-- The added switches are a stop, if the tool is found engaged and anything
  has been recorded, and a start for a line. -/
  switches :
    (entity.switched session.tool.engaged recording.calls).Perm
      ((if session.tool.engaged && !recording.records.isEmpty then [.stop]
          else [])
        ++ ((if entity.isLine then [.start] else []) ++ recording.calls))

/-- Whatever has happened in a session, it reproduces the recording of an
emission with the feed of its machine. -/
theorem emission_reproduced
    (machine : MachineSettings)
    (session : Session)
    (entity : Entity) :
    session.Reproduces machine entity
      (Recording.ofEntity machine.feed entity).1
      (Recording.ofEntity machine.feed entity).2 := by
  have recorded := Recording.calls_ofEntity machine.feed entity
  have executed :
      session.tool.executeAll (entity.calls.map (Call.again machine.feed)) =
        entity.switched session.tool.engaged
          (entity.calls.map (Call.again machine.feed)) := by
    rw [Tool.executeAll_map_again, entity.executeAll_calls,
      entity.map_again_switched]
  have emitted :
      (session.emit machine entity).1 = session.perform machine entity.calls :=
    session.emit_eq_perform machine entity
  have written :=
    Tool.map_text_writeAll_again machine session.tool entity.calls
  constructor
  case view_eq =>
    have reached :=
      Tool.afterAll_map_again machine.feed session.tool entity.calls
    rw [emitted, recorded, Session.run_map_call]
    simp only [Session.view, Session.perform, List.map_append, reached, written]
  case failure_eq => cases entity <;> rfl
  case lines_eq =>
    rw [emitted, recorded, Session.perform, List.map_append, ← written,
      Tool.writeAll_eq_flatMap_executeAll, executed, List.map_flatMap]
  case executed_eq =>
    rw [recorded]
    exact executed
  case switches =>
    have added :=
      (entity.switched_perm session.tool.engaged).map
        (Call.again machine.feed)
    have empty :
        (Recording.ofEntity machine.feed entity).1.records.isEmpty =
          !entity.contributes := by
      rw [Recording.records_ofEntity]
      simp [Entity.contributes]
    rw [entity.map_again_switched] at added
    rw [recorded, empty, Bool.not_not]
    refine added.trans (List.Perm.of_eq ?_)
    cases session.tool.engaged && entity.contributes <;>
      cases entity.isLine <;> rfl

end Toolpath
