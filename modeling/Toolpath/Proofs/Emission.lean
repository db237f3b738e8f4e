import Toolpath.Program.Compile

/-!
# What a compilation comes to

Compilation looks at entities one by one: it carries out the calls of those
that can be cut, and either leaves the others out or gives up.  This module
proves that a compilation that does not give up is one run of the tool through
the calls of all entities in their order, with one count of the entities that
were cut and one of those that were left out.

Statements about programs are reduced in this way to statements about a list
of calls and the tool that carries it out.
-/

namespace Toolpath

/-! ## The calls that entities contribute -/

namespace Entity

/-- Whether an entity can be cut; ellipses cannot. -/
def isCuttable (entity : Entity) : Bool :=
  match entity.calls? with
  | .ok _ => true
  | .error _ => false

/-- The calls that an entity contributes: none, if it cannot be cut. -/
def calls (entity : Entity) : List Call :=
  match entity.calls? with
  | .ok calls => calls
  | .error _ => []

@[simp]
theorem calls_line (shape : Line) : (line shape).calls = shape.calls := rfl

@[simp]
theorem calls_circle (shape : Circle) :
    (circle shape).calls = shape.calls := rfl

@[simp]
theorem calls_arc (shape : Arc) : (arc shape).calls = shape.calls := rfl

@[simp]
theorem calls_ellipse (shape : Ellipse) : (ellipse shape).calls = [] := rfl

@[simp]
theorem calls_polyline (shape : PolyLine) :
    (polyline shape).calls = shape.calls := rfl

/-- An entity that cannot be cut offers no emission, and that is the only way
in which one can fail to be cut. -/
theorem isNotImplemented_of_calls?_error
    {entity : Entity}
    {cause : EntityError}
    (fails : entity.calls? = .error cause) :
    cause.isNotImplemented = true := by
  cases entity with
  | ellipse shape =>
      cases fails
      rfl
  | line shape => cases fails
  | circle shape => cases fails
  | arc shape => cases fails
  | polyline shape => cases fails

end Entity

def callsOf (entities : List Entity) : List Call :=
  entities.flatMap Entity.calls

@[simp]
theorem callsOf_nil : callsOf [] = [] := rfl

@[simp]
theorem callsOf_cons (entity : Entity) (entities : List Entity) :
    callsOf (entity :: entities) = entity.calls ++ callsOf entities :=
  List.flatMap_cons

@[simp]
theorem callsOf_append (first second : List Entity) :
    callsOf (first ++ second) = callsOf first ++ callsOf second :=
  List.flatMap_append

/-! ## Carrying out all entities -/

/-- Whether an entity does not make a compilation give up. -/
def Settings.admits (settings : Settings) (entity : Entity) : Bool :=
  entity.isCuttable || settings.output.skipUnsupported

/-- What carrying out the calls of all entities comes to. -/
def Emission.ofEntities
    (machine : MachineSettings)
    (tool : Tool)
    (entities : List Entity) :
    Emission where
  tool := tool.afterAll (callsOf entities)
  lines := tool.writeAll machine (callsOf entities)
  emitted := entities.countP Entity.isCuttable
  skipped := entities.countP (!·.isCuttable)

/-- Nothing is given up on where every entity is admitted. -/
theorem emitFrom_of_admits
    (settings : Settings)
    (tool : Tool)
    (index : Nat)
    (entities : List Entity)
    (admitted : ∀ entity ∈ entities, settings.admits entity = true) :
    emitFrom settings tool index entities =
      .ok (Emission.ofEntities settings.machine tool entities) := by
  induction entities generalizing tool index with
  | nil => rfl
  | cons entity entities hypothesis =>
      have further :
          ∀ other ∈ entities, settings.admits other = true :=
        fun other member =>
          admitted other (List.mem_cons_of_mem entity member)
      have head : settings.admits entity = true :=
        admitted entity List.mem_cons_self
      cases outcome : entity.calls? with
      | ok calls =>
          simp [emitFrom, outcome, hypothesis _ _ further,
            Emission.ofEntities, Entity.calls, Entity.isCuttable,
            Tool.afterAll_append, Tool.writeAll_append]
      | error cause =>
          have unsupported :=
            Entity.isNotImplemented_of_calls?_error outcome
          have skips : settings.output.skipUnsupported = true := by
            simpa [Settings.admits, Entity.isCuttable, outcome] using head
          simp [emitFrom, outcome, unsupported, skips,
            hypothesis _ _ further, Emission.ofEntities, Entity.calls,
            Entity.isCuttable]

/-- An emission that comes to an end has admitted every entity. -/
theorem admits_of_emitFrom
    {settings : Settings}
    {tool : Tool}
    {index : Nat}
    {entities : List Entity}
    {emission : Emission}
    (ends : emitFrom settings tool index entities = .ok emission) :
    ∀ entity ∈ entities, settings.admits entity = true := by
  induction entities generalizing tool index emission with
  | nil => simp
  | cons entity entities hypothesis =>
      simp only [emitFrom] at ends
      rw [List.forall_mem_cons]
      split at ends
      next calls outcome =>
        split at ends
        next rest endsLater =>
          refine ⟨?_, hypothesis endsLater⟩
          simp [Settings.admits, Entity.isCuttable, outcome]
        next => cases ends
      next cause outcome =>
        split at ends
        next skips =>
          split at ends
          next rest endsLater =>
            refine ⟨?_, hypothesis endsLater⟩
            simp only [Bool.and_eq_true] at skips
            simp [Settings.admits, skips.2]
          next => cases ends
        next => cases ends

/-! ## Programs -/

/-- The program that carries out the given entities in the given order. -/
def Settings.programOf
    (settings : Settings)
    (entities : List Entity) :
    Program where
  preamble := settings.preamble
  body := Tool.initial.writeAll settings.machine (callsOf entities)
  postscript := settings.postscript
  emitted := entities.countP Entity.isCuttable
  skipped := entities.countP (!·.isCuttable)
  position := (Tool.initial.afterAll (callsOf entities)).position

@[simp]
theorem Settings.preamble_programOf
    (settings : Settings)
    (entities : List Entity) :
    (settings.programOf entities).preamble = settings.preamble :=
  rfl

/-- Without an optimized order, entities stay in the order of the drawing. -/
theorem Settings.arrange_of_unordered
    {settings : Settings}
    (unordered : settings.output.optimizeOrder = false)
    (entities : List Entity) :
    settings.arrange entities = entities := by
  rw [arrange, unordered]
  rfl

/-- Compilation succeeds exactly if every entity is admitted, and the program
is then the run through all entities in the order that is arranged for them. -/
theorem ValidSettings.compile_eq_ok_iff
    {valid : ValidSettings}
    {entities : List Entity}
    {program : Program} :
    valid.compile entities = .ok program ↔
      (∀ entity ∈ valid.settings.arrange entities,
        valid.settings.admits entity = true) ∧
      program =
        valid.settings.programOf (valid.settings.arrange entities) := by
  constructor
  · intro compiled
    simp only [ValidSettings.compile] at compiled
    split at compiled
    next emission ends =>
      have admitted := admits_of_emitFrom ends
      rw [emitFrom_of_admits _ _ _ _ admitted] at ends
      cases ends
      cases compiled
      exact ⟨admitted, rfl⟩
    next => cases compiled
  · rintro ⟨admitted, rfl⟩
    simp only [ValidSettings.compile,
      emitFrom_of_admits _ _ _ _ admitted]
    rfl

/-! ## A small drawing

Statements about compilations have conditions.  This drawing, in which every
kind of entity occurs, shows that they can be met.
-/

namespace Sample

/-- Settings with words of more than one code, waits and a home. -/
def settings : ValidSettings where
  settings :=
    { machine :=
        { spindleOn := "M3 S1000", startDelay := 250, stopDelay := 100 }
      output := { skipUnsupported := true, home := some ⟨1.0, 1.0⟩ } }
  faultless := by decide

def line : Entity := .line ⟨⟨0.0, 0.0⟩, ⟨3.0, 4.0⟩⟩

def circle : Entity :=
  .circle ⟨⟨5.0, 5.0⟩, 2.0, by decide, by decide⟩

def arc : Entity :=
  .arc ⟨⟨0.0, 0.0⟩, 1.0, 0.0, 1.5, by decide, by decide, by decide⟩

def ellipse : Entity :=
  .ellipse
    ⟨⟨0.0, 0.0⟩, ⟨2.0, 0.0⟩, 0.5, 0.0, 1.0,
      by decide, by decide, by decide⟩

/-- A polyline of two chains that are apart. -/
def polyline : Entity :=
  .polyline
    ⟨[ ⟨[⟨0.0, 0.0⟩, ⟨1.0, 0.0⟩], by decide, by decide⟩,
       ⟨[⟨2.0, 2.0⟩, ⟨3.0, 2.0⟩, ⟨3.0, 3.0⟩], by decide, by decide⟩ ]⟩

/-- A polyline without chains, which contributes nothing. -/
def emptyPolyline : Entity := .polyline ⟨[]⟩

def drawing : List Entity :=
  [line, circle, line, ellipse, polyline, arc, line, emptyPolyline]

end Sample

end Toolpath
