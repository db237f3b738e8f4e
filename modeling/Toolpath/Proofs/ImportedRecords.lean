import Toolpath.Proofs.DrawingAccount

/-!
# What an import makes of records

An import goes through records one by one and keeps a report, to which every
record adds either the one entity that it describes or one to the count of what
has been skipped.  What a record describes is said here without a check: it is
an entity with the data of the record, and there is none if no sound entity has
these data.  An import finds it exactly where there is one, whatever the numbers
in the record.
-/

namespace Toolpath

/-! ## Shapes with given data -/

theorem Circle.ofParts?_eq_ok_iff
    {center : Point}
    {radius : Float}
    {shape : Circle} :
    Circle.ofParts? center radius = .ok shape ↔
      center = shape.center ∧ radius = shape.radius := by
  constructor
  · intro built
    simp only [ofParts?] at built
    split at built
    next =>
      split at built
      next =>
        cases built
        exact ⟨rfl, rfl⟩
      next => cases built
    next => cases built
  · rintro ⟨rfl, rfl⟩
    simp [ofParts?, shape.center_finite, shape.radius_valid]

theorem Arc.ofParts?_eq_ok_iff
    {center : Point}
    {radius startAngle endAngle : Float}
    {shape : Arc} :
    Arc.ofParts? center radius startAngle endAngle = .ok shape ↔
      center = shape.center ∧ radius = shape.radius ∧
        startAngle = shape.startAngle ∧ endAngle = shape.endAngle := by
  constructor
  · intro built
    simp only [ofParts?] at built
    split at built
    next =>
      split at built
      next =>
        split at built
        next =>
          cases built
          exact ⟨rfl, rfl, rfl, rfl⟩
        next => cases built
      next => cases built
    next => cases built
  · rintro ⟨rfl, rfl, rfl, rfl⟩
    rw [ofParts?, dif_pos shape.center_finite, dif_pos shape.radius_valid,
      dif_pos shape.angles_finite]

theorem Ellipse.ofParts?_eq_ok_iff
    {center major : Point}
    {minorToMajor startParameter endParameter : Float}
    {shape : Ellipse} :
    Ellipse.ofParts? center major minorToMajor startParameter
        endParameter = .ok shape ↔
      center = shape.center ∧ major = shape.major ∧
        minorToMajor = shape.minorToMajor ∧
        startParameter = shape.startParameter ∧
        endParameter = shape.endParameter := by
  constructor
  · intro built
    simp only [ofParts?] at built
    split at built
    next =>
      split at built
      next =>
        split at built
        next =>
          cases built
          exact ⟨rfl, rfl, rfl, rfl, rfl⟩
        next => cases built
      next => cases built
    next => cases built
  · rintro ⟨rfl, rfl, rfl, rfl, rfl⟩
    rw [ofParts?, dif_pos shape.axis_finite, dif_pos shape.ratio_valid,
      dif_pos shape.parameters_finite]

/-! ## What a record describes -/

namespace DrawingRecord

/-- The kind of entities that a record is of, if there is one. -/
def kind? : DrawingRecord → Option EntityKind
  | line _ _ => some .line
  | circle _ _ => some .circle
  | arc _ _ _ _ => some .arc
  | ellipse _ _ _ _ _ => some .ellipse
  | lightPolyline _ _ | polyline _ _ => some .polyline
  | other => none

/-- The points of the chain that the vertices of a record make. -/
def chainPoints (points : List Point) (flags : Int) : List Point :=
  if isClosed flags then closeChain points else points

/-- A record describes an entity of its kind that has the data of the record:
the angles of an arc in radians and counter-clockwise, the points of a polyline
in a single chain that ends where it began if the record closes it. -/
inductive Describes : DrawingRecord → Entity → Prop where
  | line (shape : Line) :
      Describes (.line shape.start shape.finish) (.line shape)
  | circle (shape : Circle) :
      Describes (.circle shape.center shape.radius) (.circle shape)
  | arc
      (shape : Arc)
      {startDegrees endDegrees : Float}
      (angles :
        sweepAngles startDegrees endDegrees =
          (shape.startAngle, shape.endAngle)) :
      Describes (.arc shape.center shape.radius startDegrees endDegrees)
        (.arc shape)
  | ellipse (shape : Ellipse) :
      Describes
        (.ellipse shape.center shape.major shape.minorToMajor
          shape.startParameter shape.endParameter)
        (.ellipse shape)
  | lightPolyline
      (chain : Chain)
      {points : List Point}
      {flags : Int}
      (joined : chain.points = chainPoints points flags) :
      Describes (.lightPolyline points flags) (.polyline ⟨[chain]⟩)
  | polyline
      (chain : Chain)
      {points : List Point}
      {flags : Int}
      (joined : chain.points = chainPoints points flags) :
      Describes (.polyline points flags) (.polyline ⟨[chain]⟩)

theorem Describes.kind?_eq
    {record : DrawingRecord}
    {entity : Entity}
    (describes : record.Describes entity) :
    record.kind? = some entity.kind := by
  cases describes <;> rfl

theorem map_polylineOfRecord_eq_ok_iff
    {points : List Point}
    {flags : Int}
    {entity : Entity} :
    (polylineOfRecord points flags).map .polyline = .ok entity ↔
      ∃ chain : Chain,
        chain.points = chainPoints points flags ∧
          entity = .polyline ⟨[chain]⟩ := by
  constructor
  · intro mapped
    rcases exists_of_map_eq_ok mapped with ⟨⟨chains⟩, built, same⟩
    rcases PolyLine.ofRows?_singleton_eq_ok_iff.mp built with
      ⟨chain, only, joined⟩
    subst only
    exact ⟨chain, joined, same.symm⟩
  · rintro ⟨chain, joined, rfl⟩
    have built : polylineOfRecord points flags = .ok ⟨[chain]⟩ :=
      PolyLine.ofRows?_singleton_eq_ok_iff.mpr ⟨chain, rfl, joined⟩
    rw [built]
    rfl

/-- An import finds what a record describes. -/
theorem Describes.entity?_eq
    {record : DrawingRecord}
    {entity : Entity}
    (describes : record.Describes entity) :
    record.entity? = some entity := by
  rw [entity?_eq_some_iff]
  cases describes with
  | line shape => rfl
  | circle shape =>
      rw [convert?, Circle.ofParts?_eq_ok_iff.mpr ⟨rfl, rfl⟩]
      rfl
  | arc shape angles =>
      simp only [convert?, angles]
      rw [Arc.ofParts?_eq_ok_iff.mpr ⟨rfl, rfl, rfl, rfl⟩]
      rfl
  | ellipse shape =>
      rw [convert?, Ellipse.ofParts?_eq_ok_iff.mpr ⟨rfl, rfl, rfl, rfl, rfl⟩]
      rfl
  | lightPolyline chain joined =>
      rw [convert?]
      exact congrArg some
        (map_polylineOfRecord_eq_ok_iff.mpr ⟨chain, joined, rfl⟩)
  | polyline chain joined =>
      rw [convert?]
      exact congrArg some
        (map_polylineOfRecord_eq_ok_iff.mpr ⟨chain, joined, rfl⟩)

/-- An import finds nothing else. -/
theorem describes_of_entity?
    {record : DrawingRecord}
    {entity : Entity}
    (found : record.entity? = some entity) :
    record.Describes entity := by
  rw [entity?_eq_some_iff] at found
  cases record with
  | line start finish =>
      cases found
      exact .line ⟨start, finish⟩
  | circle center radius =>
      rcases exists_of_map_eq_ok (Option.some.inj found) with
        ⟨shape, built, rfl⟩
      rcases Circle.ofParts?_eq_ok_iff.mp built with ⟨rfl, rfl⟩
      exact .circle shape
  | arc center radius startDegrees endDegrees =>
      rcases exists_of_map_eq_ok (Option.some.inj found) with
        ⟨shape, built, rfl⟩
      rcases Arc.ofParts?_eq_ok_iff.mp built with ⟨rfl, rfl, start, finish⟩
      exact .arc shape (Prod.ext start finish)
  | ellipse center major minorToMajor startParameter endParameter =>
      rcases exists_of_map_eq_ok (Option.some.inj found) with
        ⟨shape, built, rfl⟩
      rcases Ellipse.ofParts?_eq_ok_iff.mp built with
        ⟨rfl, rfl, rfl, rfl, rfl⟩
      exact .ellipse shape
  | lightPolyline points flags =>
      rcases map_polylineOfRecord_eq_ok_iff.mp (Option.some.inj found) with
        ⟨chain, joined, rfl⟩
      exact .lightPolyline chain joined
  | polyline points flags =>
      rcases map_polylineOfRecord_eq_ok_iff.mp (Option.some.inj found) with
        ⟨chain, joined, rfl⟩
      exact .polyline chain joined
  | other => cases found

theorem entity?_eq_some_iff_describes
    {record : DrawingRecord}
    {entity : Entity} :
    record.entity? = some entity ↔ record.Describes entity :=
  ⟨describes_of_entity?, Describes.entity?_eq⟩

theorem entity?_eq_none_iff_describes {record : DrawingRecord} :
    record.entity? = none ↔ ∀ entity, ¬ record.Describes entity := by
  rw [Option.eq_none_iff_forall_ne_some]
  simp only [ne_eq, entity?_eq_some_iff_describes]

end DrawingRecord

/-! ## Sound entities -/

/-- The numbers of an imported entity are fit for its kind, and a polyline
consists of one chain.  Any line is sound. -/
def Entity.IsSound : Entity → Prop
  | .line _ => True
  | .circle shape =>
    shape.center.isFinite = true ∧
      shape.radius.isFinite = true ∧ 0.0 < shape.radius
  | .arc shape =>
    shape.center.isFinite = true ∧
      (shape.radius.isFinite = true ∧ 0.0 < shape.radius) ∧
      shape.startAngle.isFinite = true ∧ shape.endAngle.isFinite = true
  | .ellipse shape =>
    (shape.center.isFinite = true ∧ shape.major.isFinite = true) ∧
      (0.0 < shape.minorToMajor ∧ shape.minorToMajor ≤ 1.0) ∧
      shape.startParameter.isFinite = true ∧
      shape.endParameter.isFinite = true
  | .polyline shape =>
    ∃ points, shape.chains.map Chain.points = [points] ∧
      2 ≤ points.length ∧ ∀ point ∈ points, point.isFinite = true

theorem isRadius_iff {value : Float} :
    isRadius value = true ↔ value.isFinite = true ∧ 0.0 < value := by
  rw [isRadius, Bool.and_eq_true, decide_eq_true_iff]

theorem isAxisRatio_iff {value : Float} :
    isAxisRatio value = true ↔ 0.0 < value ∧ value ≤ 1.0 := by
  rw [isAxisRatio, Bool.and_eq_true, decide_eq_true_iff, decide_eq_true_iff]

theorem Entity.isSound_chain (chain : Chain) :
    (Entity.polyline ⟨[chain]⟩).IsSound :=
  ⟨chain.points, rfl, chain.two_points,
    List.all_eq_true.mp chain.points_finite⟩

theorem DrawingRecord.Describes.isSound
    {record : DrawingRecord}
    {entity : Entity}
    (describes : record.Describes entity) :
    entity.IsSound := by
  cases describes with
  | line shape => trivial
  | circle shape =>
      exact ⟨shape.center_finite, isRadius_iff.mp shape.radius_valid⟩
  | arc shape =>
      exact ⟨shape.center_finite, isRadius_iff.mp shape.radius_valid,
        (Bool.and_eq_true _ _).mp shape.angles_finite⟩
  | ellipse shape =>
      exact ⟨(Bool.and_eq_true _ _).mp shape.axis_finite,
        isAxisRatio_iff.mp shape.ratio_valid,
        (Bool.and_eq_true _ _).mp shape.parameters_finite⟩
  | lightPolyline chain => exact Entity.isSound_chain chain
  | polyline chain => exact Entity.isSound_chain chain

/-! ## Reports, record by record -/

namespace ImportReport

/-- The report of an import that has not visited any record. -/
def empty : ImportReport := ⟨[], 0⟩

/--
How an import goes on from a report: it visits records in their order, each of
which adds the entity that it describes or, if it describes none, counts as
skipped.
-/
inductive Continues :
    ImportReport → List DrawingRecord → ImportReport → Prop where
  | done {report : ImportReport} : Continues report [] report
  | entity
      {report last : ImportReport}
      {record : DrawingRecord}
      {records : List DrawingRecord}
      {entity : Entity}
      (describes : record.Describes entity)
      (further :
        Continues { report with entities := report.entities ++ [entity] }
          records last) :
      Continues report (record :: records) last
  | skipped
      {report last : ImportReport}
      {record : DrawingRecord}
      {records : List DrawingRecord}
      (describesNone : ∀ entity, ¬ record.Describes entity)
      (further :
        Continues { report with skipped := report.skipped + 1 }
          records last) :
      Continues report (record :: records) last

/-- A report with what some records add to it. -/
def visit
    (report : ImportReport)
    (records : List DrawingRecord) :
    ImportReport where
  entities := report.entities ++ records.filterMap DrawingRecord.entity?
  skipped :=
    report.skipped + records.countP fun record => record.entity?.isNone

theorem visit_nil (report : ImportReport) : report.visit [] = report := by
  simp [visit]

theorem visit_cons_of_some
    {record : DrawingRecord}
    {entity : Entity}
    (found : record.entity? = some entity)
    (report : ImportReport)
    (records : List DrawingRecord) :
    report.visit (record :: records) =
      visit { report with entities := report.entities ++ [entity] }
        records := by
  simp [visit, found]

theorem visit_cons_of_none
    {record : DrawingRecord}
    (missing : record.entity? = none)
    (report : ImportReport)
    (records : List DrawingRecord) :
    report.visit (record :: records) =
      visit { report with skipped := report.skipped + 1 } records := by
  simp [visit, missing, Nat.add_assoc, Nat.add_comm 1]

theorem visit_append
    (report : ImportReport)
    (first second : List DrawingRecord) :
    report.visit (first ++ second) = (report.visit first).visit second := by
  simp [visit, Nat.add_assoc]

/-- Records that stand in blocks are visited block by block. -/
theorem visit_flatten
    (report : ImportReport)
    (blocks : List (List DrawingRecord)) :
    report.visit blocks.flatten = blocks.foldl visit report := by
  induction blocks generalizing report with
  | nil => exact report.visit_nil
  | cons block blocks hypothesis =>
      rw [List.flatten_cons, visit_append, hypothesis, List.foldl_cons]

/-- There is one way to go on from a report, and it leads to what the records
add. -/
theorem continues_iff
    {report last : ImportReport}
    {records : List DrawingRecord} :
    report.Continues records last ↔ last = report.visit records := by
  constructor
  · intro continues
    induction continues with
    | done => rw [visit_nil]
    | entity describes further hypothesis =>
        rw [visit_cons_of_some describes.entity?_eq]
        exact hypothesis
    | skipped describesNone further hypothesis =>
        have missing :=
          DrawingRecord.entity?_eq_none_iff_describes.mpr describesNone
        rw [visit_cons_of_none missing]
        exact hypothesis
  · rintro rfl
    induction records generalizing report with
    | nil =>
        rw [visit_nil]
        exact .done
    | cons record records hypothesis =>
        cases found : record.entity? with
        | some entity =>
            rw [visit_cons_of_some found]
            exact .entity (DrawingRecord.describes_of_entity? found)
              hypothesis
        | none =>
            rw [visit_cons_of_none found]
            exact .skipped
              (DrawingRecord.entity?_eq_none_iff_describes.mp found)
              hypothesis

/-- What one report and another that it leads to have in common: the first is
the beginning of the second, which accounts for all records in between. -/
structure LeadsTo
    (report : ImportReport)
    (records : List DrawingRecord)
    (last : ImportReport) :
    Prop where
  entities_kept : report.entities <+: last.entities
  skipped_kept : report.skipped ≤ last.skipped
  counted :
    last.entities.length + last.skipped =
      report.entities.length + report.skipped + records.length
  described :
    ∀ entity ∈ last.entities,
      entity ∈ report.entities ∨
        ∃ record ∈ records, record.Describes entity

theorem Continues.leadsTo
    {report last : ImportReport}
    {records : List DrawingRecord}
    (continues : report.Continues records last) :
    report.LeadsTo records last := by
  induction continues with
  | done =>
      exact ⟨List.prefix_rfl, Nat.le_refl _, rfl,
        fun entity member => .inl member⟩
  | @entity report last record records entity describes further
      hypothesis =>
      constructor
      case entities_kept =>
        exact (List.prefix_append _ _).trans hypothesis.entities_kept
      case skipped_kept => exact hypothesis.skipped_kept
      case counted =>
        have counted := hypothesis.counted
        simp only [List.length_append, List.length_cons,
          List.length_nil] at counted ⊢
        omega
      case described =>
        intro other member
        rcases hypothesis.described other member with old | new
        · rcases List.mem_append.mp old with before | added
          · exact .inl before
          · rw [List.mem_singleton.mp added]
            exact .inr ⟨record, List.mem_cons_self, describes⟩
        · rcases new with ⟨source, listed, describesOther⟩
          exact .inr ⟨source, List.mem_cons_of_mem record listed,
            describesOther⟩
  | @skipped report last record records describesNone further hypothesis =>
      constructor
      case entities_kept => exact hypothesis.entities_kept
      case skipped_kept =>
        exact Nat.le_of_succ_le hypothesis.skipped_kept
      case counted =>
        have counted := hypothesis.counted
        simp only [List.length_cons] at counted ⊢
        omega
      case described =>
        intro other member
        rcases hypothesis.described other member with old | new
        · exact .inl old
        · rcases new with ⟨source, listed, describesOther⟩
          exact .inr ⟨source, List.mem_cons_of_mem record listed,
            describesOther⟩

end ImportReport

/-! ## Whole drawings -/

namespace Drawing

variable (drawing : Drawing)

theorem toReport_eq_visit (includeBlocks : Bool) :
    drawing.toReport includeBlocks =
      ImportReport.empty.visit (drawing.visited includeBlocks) := by
  simp [toReport, ImportReport.visit, ImportReport.empty]

theorem toReport_true_eq_visit :
    drawing.toReport true =
      (drawing.toReport false).visit drawing.blocks.flatten := by
  rw [toReport_eq_visit, toReport_eq_visit, ← ImportReport.visit_append]
  rfl

end Drawing

/--
An import visits the records of a drawing in their order and then, if blocks are
included, those of one block after the other, and there is one report that it
can come to.  What it reports without the blocks is the beginning of what it
reports with them, to which each block adds its own.  All records are counted.
Every entity comes from a record of its kind, has the data of the record, and is
sound.
-/
theorem import_in_order (drawing : Drawing) :
    (∀ report,
      ImportReport.empty.Continues drawing.records report ↔
        report = drawing.toReport false) ∧
    (∀ report,
      (drawing.toReport false).Continues drawing.blocks.flatten report ↔
        report = drawing.toReport true) ∧
    drawing.toReport true =
      drawing.blocks.foldl ImportReport.visit (drawing.toReport false) ∧
    (drawing.toReport false).entities <+: (drawing.toReport true).entities ∧
    (drawing.toReport false).skipped ≤ (drawing.toReport true).skipped ∧
    ∀ includeBlocks,
      (drawing.toReport includeBlocks).entities.length
            + (drawing.toReport includeBlocks).skipped =
          (drawing.visited includeBlocks).length ∧
        ∀ entity ∈ (drawing.toReport includeBlocks).entities,
          ∃ record ∈ drawing.visited includeBlocks,
            record.Describes entity ∧
              record.kind? = some entity.kind ∧ entity.IsSound := by
  have withoutBlocks (report : ImportReport) :
      ImportReport.empty.Continues drawing.records report ↔
        report = drawing.toReport false := by
    rw [ImportReport.continues_iff, drawing.toReport_eq_visit]
    rfl
  have withBlocks (report : ImportReport) :
      (drawing.toReport false).Continues drawing.blocks.flatten report ↔
        report = drawing.toReport true := by
    rw [ImportReport.continues_iff, drawing.toReport_true_eq_visit]
  have blockByBlock := drawing.toReport_true_eq_visit
  rw [ImportReport.visit_flatten] at blockByBlock
  have extended := ((withBlocks _).mpr rfl).leadsTo
  refine ⟨withoutBlocks, withBlocks, blockByBlock, extended.entities_kept,
    extended.skipped_kept, ?_⟩
  intro includeBlocks
  have whole :=
    (ImportReport.continues_iff.mpr
      (drawing.toReport_eq_visit includeBlocks)).leadsTo
  constructor
  · rw [whole.counted]
    exact Nat.zero_add _
  · intro entity member
    rcases whole.described entity member with impossible | imported
    · cases impossible
    · rcases imported with ⟨record, visited, describes⟩
      exact ⟨record, visited, describes, describes.kind?_eq,
        describes.isSound⟩

/-- A circle without a radius, an arc over the zero of its angles, a text, and a
closed polyline in a block. -/
def Sample.records : Drawing where
  records :=
    [ .circle .origin (0.0 / 0.0),
      .arc .origin 1.0 350.0 10.0,
      .other ]
  blocks := [[.lightPolyline [⟨0.0, 0.0⟩, ⟨1.0, 0.0⟩, ⟨1.0, 1.0⟩] 1]]

/-- Two of the records are skipped, and the arc is one of the two sound entities
that the others become. -/
theorem sample_import_in_order :
    (Sample.records.toReport true).skipped = 2 ∧
      (Sample.records.toReport true).entities.length = 2 ∧
      ∃ entity ∈ (Sample.records.toReport true).entities,
        entity.kind = .arc ∧
          ∃ record ∈ Sample.records.visited true,
            record.Describes entity ∧
              record.kind? = some entity.kind ∧ entity.IsSound := by
  have skipped : (Sample.records.toReport true).skipped = 2 := by
    decide +kernel
  have kinds :
      (Sample.records.toReport true).entities.map Entity.kind =
        [.arc, .polyline] := by
    decide +kernel
  rcases (import_in_order Sample.records).2.2.2.2.2 true with
    ⟨counted, imported⟩
  have arc :
      .arc ∈ (Sample.records.toReport true).entities.map Entity.kind := by
    rw [kinds]
    exact List.mem_cons_self
  rcases List.mem_map.mp arc with ⟨entity, member, kind⟩
  refine ⟨skipped, ?_, entity, member, kind, imported entity member⟩
  rw [skipped] at counted
  exact Nat.add_right_cancel (m := 2) counted

end Toolpath
