import Toolpath.Proofs.Emission

/-!
# Strokes

A machine that reads a program holds a position and the state of its tool.  A
rapid move takes it elsewhere, cuts draw strokes from where it is, and all other
lines leave it where it is.  This module proves that the strokes drawn by a
compiled body are those of the entities, shape by shape and in the order in
which the entities are carried out, all of them drawn with the tool engaged.

Coordinates may be given in any way, so that the same machine reads numbers
and written words.
-/

namespace Toolpath

/-! ## Motions and strokes -/

/-- A point whose coordinates are given in some way. -/
structure Location (Coordinate : Type) where
  x : Coordinate
  y : Coordinate

/-- What a line tells a machine. -/
inductive Motion (Coordinate : Type) where
  | rapid (target : Location Coordinate)
  | straight (target : Location Coordinate)
  /-- An arc to a point, around a center given by its offset from the start. -/
  | arc (target offset : Location Coordinate)
  /-- A full circle around a center given by its offset to the right. -/
  | circle (offset : Coordinate)
  | engage
  | lift
  /-- Nothing that concerns position or tool. -/
  | still

/-- What a stroke looks like from where it starts. -/
inductive Path (Coordinate : Type) where
  | straight (target : Location Coordinate)
  | arc (target offset : Location Coordinate)
  | circle (offset : Coordinate)

/-- A stroke, with the state of the tool that draws it. -/
structure Stroke (Coordinate : Type) where
  /-- Where the stroke starts, if that is known. -/
  start : Option (Location Coordinate)
  path : Path Coordinate
  engaged : Bool

/-- The state of a machine that reads a program. -/
structure Plotter (Coordinate : Type) where
  /-- Where the machine is, once it has been told. -/
  position : Option (Location Coordinate)
  engaged : Bool

namespace Plotter

variable {Coordinate : Type}

/-- A machine that has read nothing. -/
def initial : Plotter Coordinate := ⟨none, false⟩

def after (plotter : Plotter Coordinate) :
    Motion Coordinate → Plotter Coordinate
  | .rapid target | .straight target | .arc target _ =>
    { plotter with position := some target }
  | .engage => { plotter with engaged := true }
  | .lift => { plotter with engaged := false }
  | .circle _ | .still => plotter

def draw (plotter : Plotter Coordinate) :
    Motion Coordinate → List (Stroke Coordinate)
  | .straight target =>
    [⟨plotter.position, .straight target, plotter.engaged⟩]
  | .arc target offset =>
    [⟨plotter.position, .arc target offset, plotter.engaged⟩]
  | .circle offset =>
    [⟨plotter.position, .circle offset, plotter.engaged⟩]
  | .rapid _ | .engage | .lift | .still => []

def afterAll
    (plotter : Plotter Coordinate)
    (motions : List (Motion Coordinate)) :
    Plotter Coordinate :=
  motions.foldl after plotter

def drawAll (plotter : Plotter Coordinate) :
    List (Motion Coordinate) → List (Stroke Coordinate)
  | [] => []
  | motion :: motions =>
    plotter.draw motion ++ (plotter.after motion).drawAll motions

@[simp]
theorem afterAll_nil (plotter : Plotter Coordinate) :
    plotter.afterAll [] = plotter :=
  rfl

@[simp]
theorem afterAll_cons
    (plotter : Plotter Coordinate)
    (motion : Motion Coordinate)
    (motions : List (Motion Coordinate)) :
    plotter.afterAll (motion :: motions) =
      (plotter.after motion).afterAll motions :=
  rfl

@[simp]
theorem afterAll_append
    (plotter : Plotter Coordinate)
    (first second : List (Motion Coordinate)) :
    plotter.afterAll (first ++ second) =
      (plotter.afterAll first).afterAll second :=
  List.foldl_append

@[simp]
theorem drawAll_append
    (plotter : Plotter Coordinate)
    (first second : List (Motion Coordinate)) :
    plotter.drawAll (first ++ second) =
      plotter.drawAll first
        ++ (plotter.afterAll first).drawAll second := by
  induction first generalizing plotter with
  | nil => rfl
  | cons motion motions hypothesis => simp [drawAll, hypothesis]

end Plotter

/-! ## What lines and calls tell a machine -/

def Point.location (point : Point) : Location Float := ⟨point.x, point.y⟩

/-- What a line tells a machine, by what wrote it: the words that switch the
tool do not move it, whatever they are. -/
def ProgramLine.motion : ProgramLine → Motion Float
  | .rapid target => .rapid target.location
  | .cut target _ => .straight target.location
  | .arc target offset _ => .arc target.location offset.location
  | .circle radius _ => .circle radius
  | .spindleOn _ => .engage
  | .spindleOff _ => .lift
  | .comment _ | .blank | .code _ | .dwell _ => .still

/-- What a call comes to for a machine, the tool being looked after. -/
def Call.motions : Call → List (Motion Float)
  | .go target => [.lift, .rapid target.location]
  | .draw target => [.engage, .straight target.location]
  | .arc target offset => [.arc target.location offset.location]
  | .circle radius => [.circle radius]
  | .start => [.engage]
  | .stop => [.lift]
  | .comment _ | .separator | .code _ | .setPosition _ => []

namespace Plotter

theorem afterAll_dwellLines
    (plotter : Plotter Float)
    (milliseconds : UInt32) :
    plotter.afterAll ((dwellLines milliseconds).map ProgramLine.motion) =
      plotter := by
  rw [dwellLines]
  split <;> rfl

theorem drawAll_dwellLines
    (plotter : Plotter Float)
    (milliseconds : UInt32) :
    plotter.drawAll ((dwellLines milliseconds).map ProgramLine.motion) =
      [] := by
  rw [dwellLines]
  split <;> rfl

@[simp]
theorem afterAll_engageLines
    (plotter : Plotter Float)
    (machine : MachineSettings) :
    plotter.afterAll (machine.engageLines.map ProgramLine.motion) =
      plotter.after .engage :=
  afterAll_dwellLines _ machine.startDelay

@[simp]
theorem drawAll_engageLines
    (plotter : Plotter Float)
    (machine : MachineSettings) :
    plotter.drawAll (machine.engageLines.map ProgramLine.motion) = [] :=
  drawAll_dwellLines _ machine.startDelay

@[simp]
theorem afterAll_liftLines
    (plotter : Plotter Float)
    (machine : MachineSettings) :
    plotter.afterAll (machine.liftLines.map ProgramLine.motion) =
      plotter.after .lift :=
  afterAll_dwellLines _ machine.stopDelay

@[simp]
theorem drawAll_liftLines
    (plotter : Plotter Float)
    (machine : MachineSettings) :
    plotter.drawAll (machine.liftLines.map ProgramLine.motion) = [] :=
  drawAll_dwellLines _ machine.stopDelay

theorem after_lift_of_lifted
    {plotter : Plotter Float}
    (lifted : plotter.engaged = false) :
    plotter.after .lift = plotter := by
  cases plotter
  cases lifted
  rfl

theorem after_engage_of_engaged
    {plotter : Plotter Float}
    (engaged : plotter.engaged = true) :
    plotter.after .engage = plotter := by
  cases plotter
  cases engaged
  rfl

section Write

variable
  (machine : MachineSettings)
  {tool : Tool}
  {plotter : Plotter Float}

/-- A machine that agrees with the tool on its state ends up after the lines of
a call where the call itself takes it. -/
theorem afterAll_write
    (agrees : plotter.engaged = tool.engaged)
    (call : Call) :
    plotter.afterAll ((tool.write machine call).map ProgramLine.motion) =
      plotter.afterAll call.motions := by
  cases call with
  | go target =>
      cases engaged : tool.engaged with
      | true => simp [Tool.write, engaged, Call.motions, ProgramLine.motion]
      | false =>
          have lifted := after_lift_of_lifted (agrees.trans engaged)
          simp [Tool.write, engaged, Call.motions, ProgramLine.motion,
            lifted]
  | draw target =>
      cases engaged : tool.engaged with
      | true =>
          have steady := after_engage_of_engaged (agrees.trans engaged)
          simp [Tool.write, engaged, Call.motions, ProgramLine.motion,
            steady]
      | false =>
          simp [Tool.write, engaged, Call.motions, ProgramLine.motion]
  | start => exact afterAll_engageLines plotter machine
  | stop => exact afterAll_liftLines plotter machine
  | comment text => rfl
  | separator => rfl
  | code text => rfl
  | arc target offset => rfl
  | circle radius => rfl
  | setPosition position => rfl

/-- Such a machine draws what the call itself draws. -/
theorem drawAll_write
    (agrees : plotter.engaged = tool.engaged)
    (call : Call) :
    plotter.drawAll ((tool.write machine call).map ProgramLine.motion) =
      plotter.drawAll call.motions := by
  cases call with
  | go target =>
      cases engaged : tool.engaged <;>
        simp [Tool.write, engaged, Call.motions, ProgramLine.motion,
          drawAll, draw]
  | draw target =>
      cases engaged : tool.engaged with
      | true =>
          have steady := after_engage_of_engaged (agrees.trans engaged)
          simp [Tool.write, engaged, Call.motions, ProgramLine.motion,
            drawAll, draw, steady]
      | false =>
          simp [Tool.write, engaged, Call.motions, ProgramLine.motion,
            drawAll, draw]
  | start => exact drawAll_engageLines plotter machine
  | stop => exact drawAll_liftLines plotter machine
  | comment text => rfl
  | separator => rfl
  | code text => rfl
  | arc target offset => rfl
  | circle radius => rfl
  | setPosition position => rfl

theorem engaged_afterAll_motions
    (agrees : plotter.engaged = tool.engaged)
    (call : Call) :
    (plotter.afterAll call.motions).engaged =
      (tool.after call).engaged := by
  cases call <;> simp [Call.motions, after, Tool.after, agrees]

theorem drawAll_writeAll
    (agrees : plotter.engaged = tool.engaged)
    (calls : List Call) :
    plotter.drawAll
        ((tool.writeAll machine calls).map ProgramLine.motion) =
      plotter.drawAll (calls.flatMap Call.motions) := by
  induction calls generalizing tool plotter with
  | nil => rfl
  | cons call calls hypothesis =>
      have agreesLater := engaged_afterAll_motions agrees call
      rw [Tool.writeAll, List.map_append, List.flatMap_cons,
        drawAll_append, drawAll_append, drawAll_write machine agrees,
        afterAll_write machine agrees, hypothesis agreesLater]

end Write

end Plotter

/-! ## The strokes of entities -/

/-- A straight stroke between two points, drawn with the tool engaged. -/
def straightStroke (start finish : Point) : Stroke Float :=
  ⟨some start.location, .straight finish.location, true⟩

/-- A chain is drawn from each of its points to the next. -/
def Chain.strokes (chain : Chain) : List (Stroke Float) :=
  List.zipWith straightStroke chain.points chain.points.tail

def Entity.strokes : Entity → List (Stroke Float)
  | .line shape => [straightStroke shape.start shape.finish]
  | .circle shape =>
    [⟨some ⟨shape.center.x - shape.radius, shape.center.y⟩,
      .circle shape.radius, true⟩]
  | .arc shape =>
    let first := shape.pointAt 0.0
    [⟨some first.location,
      .arc (shape.pointAt 1.0).location
        ⟨shape.center.x - first.x, shape.center.y - first.y⟩,
      true⟩]
  | .ellipse _ => []
  | .polyline shape => shape.chains.flatMap Chain.strokes

namespace Plotter

theorem drawAll_drawThrough (start : Point) (points : List Point) :
    drawAll ⟨some start.location, true⟩
        ((drawThrough points).flatMap Call.motions) =
      List.zipWith straightStroke (start :: points) points := by
  induction points generalizing start with
  | nil => rfl
  | cons point points hypothesis =>
      rw [List.zipWith_cons_cons, ← hypothesis point]
      rfl

/-- The calls of a chain draw the chain, from wherever the machine is. -/
theorem drawAll_chain
    (plotter : Plotter Float)
    (label : String)
    (chain : Chain) :
    plotter.drawAll ((chain.calls label).flatMap Call.motions) =
      chain.strokes := by
  have cuts := drawAll_drawThrough chain.first chain.further
  rw [chain.first_cons_further] at cuts
  simp only [Chain.calls, List.flatMap_append, drawAll_append]
  have opened :
      plotter.afterAll
          (([.comment label, .go chain.first, .start] : List Call).flatMap
            Call.motions) =
        ⟨some chain.first.location, true⟩ :=
    rfl
  rw [opened, cuts]
  simp [Chain.strokes, Chain.further, Call.motions, drawAll, draw]

/-- The calls of an entity draw the entity, from wherever the machine is. -/
theorem drawAll_entity (plotter : Plotter Float) (entity : Entity) :
    plotter.drawAll (entity.calls.flatMap Call.motions) =
      entity.strokes := by
  cases entity with
  | line shape => rfl
  | circle shape => rfl
  | arc shape => rfl
  | ellipse shape => rfl
  | polyline shape =>
      simp only [Entity.calls_polyline, PolyLine.calls, Entity.strokes]
      generalize shape.label = label
      induction shape.chains generalizing plotter with
      | nil => rfl
      | cons chain chains hypothesis =>
          rw [List.flatMap_cons, List.flatMap_cons, List.flatMap_append,
            drawAll_append, drawAll_chain, hypothesis]

theorem drawAll_callsOf
    (plotter : Plotter Float)
    (entities : List Entity) :
    plotter.drawAll ((callsOf entities).flatMap Call.motions) =
      entities.flatMap Entity.strokes := by
  induction entities generalizing plotter with
  | nil => rfl
  | cons entity entities hypothesis =>
      rw [callsOf_cons, List.flatMap_append, drawAll_append,
        drawAll_entity, hypothesis, List.flatMap_cons]

end Plotter

theorem Settings.drawAll_body
    (settings : Settings)
    (entities : List Entity) :
    Plotter.initial.drawAll
        ((settings.programOf entities).body.map ProgramLine.motion) =
      entities.flatMap Entity.strokes := by
  rw [Settings.programOf,
    Plotter.drawAll_writeAll settings.machine rfl (callsOf entities),
    Plotter.drawAll_callsOf]

end Toolpath
