import Toolpath.Conversion
import Toolpath.Proofs.PolylineRows
import Toolpath.Proofs.Separators
import Toolpath.Proofs.Unsupported

/-!
# The account of a drawing

An import turns records into entities or skips them, and a compilation emits
entities or skips them.  This module adds up what the three counts say: every
record of a drawing is skipped by the import, or is an ellipse that the
compilation skips, or is emitted.  What has been emitted can be seen in the
program, where every entity has one block that ends with an empty line.

A polyline gives one block for every chain, which would upset the count.  A
record never describes more than one chain, and so an imported polyline has
exactly one.
-/

namespace Toolpath

/-! ## Records that become entities -/

theorem exists_of_map_eq_ok
    {Cause Source Target : Type}
    {outcome : Except Cause Source}
    {wrap : Source → Target}
    {target : Target}
    (mapped : outcome.map wrap = .ok target) :
    ∃ source, outcome = .ok source ∧ wrap source = target := by
  cases outcome with
  | error cause => cases mapped
  | ok source => exact ⟨source, rfl, Except.ok.inj mapped⟩

namespace DrawingRecord

theorem entity?_eq_some_iff
    {record : DrawingRecord}
    {entity : Entity} :
    record.entity? = some entity ↔
      record.convert? = some (.ok entity) := by
  rw [entity?]
  split
  next converted found => simp [found]
  next refused =>
    constructor
    · intro absent
      cases absent
    · intro found
      exact (refused entity found).elim

/-- An imported polyline has exactly one chain. -/
theorem chains_of_entity?
    {record : DrawingRecord}
    {shape : PolyLine}
    (imported : record.entity? = some (.polyline shape)) :
    ∃ chain, shape.chains = [chain] := by
  have one (points : List Point) (flags : Int)
      (mapped :
        (polylineOfRecord points flags).map .polyline =
          .ok (Entity.polyline shape)) :
      ∃ chain, shape.chains = [chain] := by
    rcases exists_of_map_eq_ok mapped with ⟨other, built, same⟩
    cases same
    rcases PolyLine.ofRows?_singleton_eq_ok_iff.mp built with
      ⟨chain, only, -⟩
    exact ⟨chain, only⟩
  have converted := entity?_eq_some_iff.mp imported
  cases record with
  | lightPolyline points flags =>
      exact one points flags (Option.some.inj converted)
  | polyline points flags =>
      exact one points flags (Option.some.inj converted)
  | line start finish => cases converted
  | other => cases converted
  | circle center radius =>
      rcases exists_of_map_eq_ok (Option.some.inj converted) with
        ⟨_, _, wrong⟩
      cases wrong
  | arc center radius startAngle endAngle =>
      rcases exists_of_map_eq_ok (Option.some.inj converted) with
        ⟨_, _, wrong⟩
      cases wrong
  | ellipse center major minorToMajor startParameter endParameter =>
      rcases exists_of_map_eq_ok (Option.some.inj converted) with
        ⟨_, _, wrong⟩
      cases wrong

/-- An imported entity has one part, unless it is an ellipse. -/
theorem length_parts_of_entity?
    {record : DrawingRecord}
    {entity : Entity}
    (imported : record.entity? = some entity)
    (cuttable : entity.isCuttable = true) :
    entity.parts.length = 1 := by
  cases entity with
  | line shape => rfl
  | circle shape => rfl
  | arc shape => rfl
  | ellipse shape => cases cuttable
  | polyline shape =>
      rcases chains_of_entity? imported with ⟨chain, only⟩
      rw [Entity.parts, only]
      rfl

end DrawingRecord

namespace Drawing

variable (drawing : Drawing) (includeBlocks : Bool)

/-- How many records an import visits: those of the drawing and, if they are
included, those of all blocks. -/
def countVisited : Nat :=
  drawing.records.length
    + if includeBlocks then drawing.blocks.flatten.length else 0

theorem length_visited :
    (drawing.visited includeBlocks).length =
      drawing.countVisited includeBlocks := by
  cases includeBlocks with
  | false => rfl
  | true => simp [visited, countVisited]

/-- Every record that is visited becomes an entity or is skipped. -/
theorem skipped_add_length_entities :
    (drawing.toReport includeBlocks).skipped
        + (drawing.toReport includeBlocks).entities.length =
      drawing.countVisited includeBlocks := by
  have missed :
      (drawing.visited includeBlocks).countP
          (fun record => record.entity?.isNone) =
        (drawing.visited includeBlocks).countP
          (fun record => ¬ record.entity?.isSome = true) :=
    List.countP_congr fun record _ => by simp
  rw [← length_visited, toReport, List.length_filterMap_eq_countP, missed,
    Nat.add_comm]
  exact (List.length_eq_countP_add_countP _).symm

/-- The entities that are emitted, in the order of their emission. -/
def drawn (settings : Settings) : List Entity :=
  (settings.arrange (drawing.toReport includeBlocks).entities).filter
    (·.kind ≠ .ellipse)

theorem drawn_eq_filter_isCuttable (settings : Settings) :
    drawing.drawn includeBlocks settings =
      (settings.arrange (drawing.toReport includeBlocks).entities).filter
        Entity.isCuttable :=
  List.filter_congr fun entity _ => entity.isCuttable_eq.symm

/-- All entities that are emitted have one part. -/
theorem length_parts_of_mem_drawn
    {settings : Settings}
    {entity : Entity}
    (member : entity ∈ drawing.drawn includeBlocks settings) :
    entity.parts.length = 1 := by
  rw [drawn_eq_filter_isCuttable, List.mem_filter] at member
  have reported : entity ∈ (drawing.toReport includeBlocks).entities :=
    (settings.arrange_perm _).mem_iff.mp member.1
  rcases List.mem_filterMap.mp reported with ⟨record, -, imported⟩
  exact DrawingRecord.length_parts_of_entity? imported member.2

/-- What is skipped leaves no lines, and the rest is counted. -/
theorem programOf_drawn (settings : Settings) :
    settings.programOf (drawing.drawn includeBlocks settings) =
      { settings.programOf
          (settings.arrange (drawing.toReport includeBlocks).entities) with
        skipped := 0 } := by
  rw [drawn_eq_filter_isCuttable, Settings.programOf_filter_isCuttable]

theorem length_drawn (settings : Settings) :
    (drawing.drawn includeBlocks settings).length =
      (settings.programOf
        (settings.arrange
          (drawing.toReport includeBlocks).entities)).emitted := by
  rw [drawn_eq_filter_isCuttable, ← List.countP_eq_length_filter]
  rfl

end Drawing

/-! ## Blocks of what has been imported -/

/-- The lines that an entity gives in one state of the tool or another, if they
are a block under its label. -/
structure Entity.IsWrittenAs
    (machine : MachineSettings)
    (entity : Entity)
    (lines : List ProgramLine) :
    Prop where
  /-- The block is the entity's own, perhaps with a lift after its remark. -/
  written :
    ∃ engaged, lines = liftAfterFirst machine engaged (entity.block machine)
  is_block : IsBlock entity.label lines

/-- Entities in one part each give one block each, in their order. -/
theorem Settings.exists_blocks_programOf
    {settings : Settings}
    (words : settings.machine.HasWords)
    {entities : List Entity}
    (single : ∀ entity ∈ entities, entity.parts.length = 1) :
    ∃ blocks,
      (settings.programOf entities).body = blocks.flatten ∧
        List.Forall₂ (Entity.IsWrittenAs settings.machine)
          entities blocks := by
  refine ⟨Tool.initial.writeEach settings.machine Entity.calls entities,
    ?_, ?_⟩
  · exact (Tool.flatten_writeEach Tool.initial entities).symm
  · apply Tool.forall₂_writeEach
    intro entity member tool
    constructor
    case written =>
      exact ⟨tool.engaged,
        entity.opening_calls.writeAll_eq settings.machine tool⟩
    case is_block =>
      exact (Entity.isBlockOfCalls (single entity member)).writeAll words
        tool

/-! ## The account -/

/-- What is left of the records of a drawing in a program that has been compiled
from its import. -/
structure Program.AccountsFor
    (program : Program)
    (settings : Settings)
    (drawing : Drawing)
    (includeBlocks : Bool) :
    Prop where
  /-- Every record is skipped by the import, skipped by the compilation, or
  emitted. -/
  every_record_counted :
    drawing.countVisited includeBlocks =
      (drawing.toReport includeBlocks).skipped + program.skipped
        + program.emitted
  /-- The compilation skips ellipses only. -/
  skipped_eq :
    program.skipped =
      (drawing.toReport includeBlocks).entities.countP
        (·.kind = .ellipse)
  /-- There is an empty line in the body for every entity that is emitted. -/
  countEmpty_body : countEmpty program.body = program.emitted
  /-- The body consists of one block for every entity that is no ellipse, in the
  order of emission. -/
  blocks_of_entities :
    ∃ blocks,
      program.body = blocks.flatten ∧
        blocks.length = program.emitted ∧
        List.Forall₂ (Entity.IsWrittenAs settings.machine)
          (drawing.drawn includeBlocks settings) blocks

theorem Program.AccountsFor.of_compile
    {valid : ValidSettings}
    {drawing : Drawing}
    {includeBlocks : Bool}
    {program : Program}
    (compiled :
      valid.compile (drawing.toReport includeBlocks).entities =
        .ok program) :
    program.AccountsFor valid.settings drawing includeBlocks := by
  rcases ValidSettings.compile_eq_ok_iff.mp compiled with ⟨-, isProgram⟩
  subst isProgram
  have emitted := drawing.length_drawn includeBlocks valid.settings
  have body :=
    congrArg Program.body
      (drawing.programOf_drawn includeBlocks valid.settings)
  rcases Settings.exists_blocks_programOf valid.hasWords
    (fun _ => drawing.length_parts_of_mem_drawn includeBlocks) with
    ⟨blocks, isBody, written⟩
  rw [body] at isBody
  constructor
  case every_record_counted =>
    have visited := drawing.skipped_add_length_entities includeBlocks
    have counted :=
      valid.settings.emitted_add_skipped
        (valid.settings.arrange (drawing.toReport includeBlocks).entities)
    rw [(valid.settings.arrange_perm _).length_eq] at counted
    rw [← visited, ← counted, Nat.add_assoc, Nat.add_comm (Program.emitted _)]
  case skipped_eq =>
    exact valid.settings.skipped_programOf_arrange _
  case countEmpty_body =>
    have each :
        List.Forall₂ (fun entity block => IsBlock entity.label block)
          (drawing.drawn includeBlocks valid.settings) blocks :=
      written.imp fun _ _ isWritten => isWritten.is_block
    rw [isBody, countEmpty_flatten each, emitted]
  case blocks_of_entities =>
    refine ⟨blocks, isBody, ?_, written⟩
    rw [← written.length_eq, emitted]

/-- Compilation fails for the entities that hold an ellipse, where nothing may
be skipped, and for no others. -/
theorem ValidSettings.exists_error_iff
    (valid : ValidSettings)
    (entities : List Entity) :
    (∃ fault, valid.compile entities = .error fault) ↔
      valid.settings.output.skipUnsupported = false ∧
        ∃ entity ∈ entities, entity.kind = .ellipse := by
  cases skips : valid.settings.output.skipUnsupported with
  | false =>
      rw [exists_compile_error_iff skips]
      simp
  | true => simp [compile_of_skipping skips]

/--
No record of a drawing is lost on the way to its program.

The compilation of what has been imported fails exactly if it may not skip an
ellipse that it meets.  If it succeeds, the program accounts for all records.
The conversion of a file that holds the drawing comes to this compilation.
-/
theorem drawing_accounted
    (valid : ValidSettings)
    (drawing : Drawing)
    (includeBlocks : Bool) :
    ((∃ fault,
        valid.compile (drawing.toReport includeBlocks).entities =
          .error fault) ↔
      valid.settings.output.skipUnsupported = false ∧
        ∃ entity ∈ (drawing.toReport includeBlocks).entities,
          entity.kind = .ellipse) ∧
    (∀ program,
      valid.compile (drawing.toReport includeBlocks).entities =
          .ok program →
        program.AccountsFor valid.settings drawing includeBlocks) ∧
    ∀ source path content,
      isDrawingPath path = true →
      source path = .ok content →
      Drawing.ofBytes? content = some drawing →
      convertFile source path valid.settings includeBlocks =
        (valid.compile (drawing.toReport includeBlocks).entities).mapError
          (.uncompiled path) := by
  refine ⟨valid.exists_error_iff _, ?_, ?_⟩
  · intro program compiled
    exact .of_compile compiled
  · intro source path content isDrawing found read
    have loaded :
        ImportReport.load source path includeBlocks =
          .ok (drawing.toReport includeBlocks) := by
      simp [ImportReport.load, isDrawing, found, read]
    simp [convertFile, loaded]

/-- A file of three records: a line, a circle without extent and an ellipse. -/
def Sample.file : ByteArray :=
  String.toUTF8
    "0\nSECTION\n2\nENTITIES\n0\nLINE\n0\nCIRCLE\n0\nELLIPSE\n0\nENDSEC\n0\nEOF\n"

/-- The import skips the circle, the compilation skips the ellipse, and the line
is emitted. -/
theorem sample_drawing_accounted :
    ∃ drawing program,
      Drawing.ofBytes? Sample.file = some drawing ∧
        convertFile (fun _ => .ok Sample.file) "part.dxf"
            Sample.settings.settings true =
          .ok program ∧
        program.AccountsFor Sample.settings.settings drawing true ∧
        drawing.countVisited true = 3 ∧
        (drawing.toReport true).skipped = 1 ∧
        program.skipped = 1 ∧
        program.emitted = 1 := by
  have counts :
      (Drawing.ofBytes? Sample.file).map
          (fun drawing =>
            (drawing.countVisited true, (drawing.toReport true).skipped,
              (drawing.toReport true).entities.countP
                (·.kind = .ellipse))) =
        some (3, 1, 1) := by
    decide +kernel
  rcases Option.map_eq_some_iff.mp counts with ⟨drawing, read, counted⟩
  simp only [Prod.mk.injEq] at counted
  rcases counted with ⟨visited, passed, ellipses⟩
  rcases drawing_accounted Sample.settings drawing true with
    ⟨fails, accounts, converts⟩
  have converted :=
    converts (fun _ => .ok Sample.file) "part.dxf" Sample.file
      (by decide +kernel) rfl read
  cases compiled :
      Sample.settings.compile (drawing.toReport true).entities with
  | error fault =>
      have strict := (fails.mp ⟨fault, compiled⟩).1
      cases strict
  | ok program =>
      have account := accounts program compiled
      have skipped : program.skipped = 1 := account.skipped_eq.trans ellipses
      have total := account.every_record_counted
      rw [visited, passed, skipped] at total
      refine ⟨drawing, program, read, ?_, account, visited, passed, skipped,
        by omega⟩
      rw [converted, compiled]
      rfl

end Toolpath
