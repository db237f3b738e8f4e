import Toolpath.Proofs.Reordering

/-!
# Drawings with ellipses

Ellipses cannot be cut.  If settings allow them to be skipped, a drawing gives
the program that it would give without them, and only the count of what was
skipped tells of them.  If not, the first ellipse of the drawing makes the
compilation fail.

Both facts hold whether the order of entities is optimized or not.  Ellipses
have no starting point, so the tour does not see them, and they keep their
order among the entities that follow the tour.  What an optimized order
changes is the place at which the first ellipse is met.
-/

namespace Toolpath

/-! ## Which entities are ellipses -/

namespace Entity

theorem isCuttable_eq (entity : Entity) :
    entity.isCuttable = decide (entity.kind ≠ .ellipse) := by
  cases entity <;> rfl

theorem isCuttable_iff {entity : Entity} :
    entity.isCuttable = true ↔ entity.kind ≠ .ellipse := by
  rw [isCuttable_eq, decide_eq_true_iff]

theorem forall_isCuttable_iff {entities : List Entity} :
    (∀ entity ∈ entities, entity.isCuttable = true) ↔
      ∀ entity ∈ entities, entity.kind ≠ .ellipse := by
  simp only [isCuttable_iff]

theorem isCuttable_of_hasStart
    {entity : Entity}
    (placed : entity.hasStart = true) :
    entity.isCuttable = true := by
  cases entity with
  | line shape => rfl
  | circle shape => rfl
  | arc shape => rfl
  | ellipse shape => cases placed
  | polyline shape => rfl

/-- Whether an entity is a polyline without chains. -/
def isChainless : Entity → Bool
  | polyline shape => shape.chains.isEmpty
  | _ => false

/-- Apart from ellipses, polylines without chains are the entities that have no
starting point. -/
theorem not_hasStart_of_isCuttable
    {entity : Entity}
    (cuttable : entity.isCuttable = true) :
    (!entity.hasStart) = entity.isChainless := by
  cases entity with
  | line shape => rfl
  | circle shape => rfl
  | arc shape => rfl
  | ellipse shape => cases cuttable
  | polyline shape =>
      cases chains : shape.chains <;>
        simp [hasStart, start?, isChainless, chains]

end Entity

/-! ## Drawings without their ellipses -/

theorem callsOf_filter_isCuttable (entities : List Entity) :
    callsOf (entities.filter Entity.isCuttable) = callsOf entities := by
  induction entities with
  | nil => rfl
  | cons entity entities hypothesis =>
      cases outcome : entity.calls? with
      | ok calls =>
          have cuttable : entity.isCuttable = true := by
            simp [Entity.isCuttable, outcome]
          rw [List.filter_cons_of_pos cuttable, callsOf_cons,
            callsOf_cons, hypothesis]
      | error cause =>
          have refused : ¬ entity.isCuttable = true := by
            simp [Entity.isCuttable, outcome]
          have nothing : entity.calls = [] := by
            simp [Entity.calls, outcome]
          rw [List.filter_cons_of_neg refused, callsOf_cons, nothing,
            List.nil_append, hypothesis]

/-- Without the entities that cannot be cut, everything about a program is the
same, except that nothing is skipped. -/
theorem Settings.programOf_filter_isCuttable
    (settings : Settings)
    (entities : List Entity) :
    settings.programOf (entities.filter Entity.isCuttable) =
      { settings.programOf entities with skipped := 0 } := by
  have emitted :
      (entities.filter Entity.isCuttable).countP Entity.isCuttable =
        entities.countP Entity.isCuttable := by
    simp [List.countP_filter]
  have skipped :
      (entities.filter Entity.isCuttable).countP (!·.isCuttable) = 0 := by
    simp [List.countP_filter]
  simp only [programOf, callsOf_filter_isCuttable, emitted, skipped]

/-- Leaving out ellipses does not disturb an order by proximity. -/
theorem orderByProximity_filter_isCuttable
    (origin : Point)
    (entities : List Entity) :
    orderByProximity origin (entities.filter Entity.isCuttable) =
      (orderByProximity origin entities).filter Entity.isCuttable := by
  have placed :
      (entities.filter Entity.isCuttable).filter Entity.hasStart =
        entities.filter Entity.hasStart := by
    rw [List.filter_filter]
    apply List.filter_congr
    intro entity _
    cases start : entity.hasStart with
    | false => rfl
    | true => rw [Entity.isCuttable_of_hasStart start, Bool.and_self]
  have unplaced :
      (entities.filter Entity.isCuttable).filter (!·.hasStart) =
        (entities.filter (!·.hasStart)).filter Entity.isCuttable := by
    rw [List.filter_filter, List.filter_filter]
    apply List.filter_congr
    intro entity _
    exact Bool.and_comm _ _
  have tour :
      (placedTour origin entities).filter Entity.isCuttable =
        placedTour origin entities := by
    apply List.filter_eq_self.mpr
    intro entity member
    have visited := (placedTour_perm origin entities).mem_iff.mp member
    exact Entity.isCuttable_of_hasStart (List.of_mem_filter visited)
  rw [orderByProximity_eq_append, orderByProximity_eq_append,
    List.filter_append, tour, unplaced, placedTour, placed, placedTour]

theorem Settings.arrange_filter_isCuttable
    (settings : Settings)
    (entities : List Entity) :
    settings.arrange (entities.filter Entity.isCuttable) =
      (settings.arrange entities).filter Entity.isCuttable := by
  rw [arrange, arrange]
  split
  · exact orderByProximity_filter_isCuttable _ entities
  · rfl

/-! ## Counts of entities -/

/-- Every entity is counted as emitted or as skipped. -/
theorem Settings.emitted_add_skipped
    (settings : Settings)
    (entities : List Entity) :
    (settings.programOf entities).emitted
        + (settings.programOf entities).skipped =
      entities.length := by
  rw [List.length_eq_countP_add_countP Entity.isCuttable]
  simp [programOf]

/-- In any order, the entities that are emitted are those that are no
ellipses. -/
theorem Settings.emitted_programOf_arrange
    (settings : Settings)
    (entities : List Entity) :
    (settings.programOf (settings.arrange entities)).emitted =
      entities.countP (·.kind ≠ .ellipse) := by
  have counted :
      (settings.programOf (settings.arrange entities)).emitted =
        entities.countP Entity.isCuttable :=
    (settings.arrange_perm entities).countP_eq Entity.isCuttable
  rw [counted]
  exact List.countP_congr fun entity _ => by
    rw [Entity.isCuttable_iff, decide_eq_true_iff]

/-- In any order, the entities that are skipped are the ellipses. -/
theorem Settings.skipped_programOf_arrange
    (settings : Settings)
    (entities : List Entity) :
    (settings.programOf (settings.arrange entities)).skipped =
      entities.countP (·.kind = .ellipse) := by
  have counted :
      (settings.programOf (settings.arrange entities)).skipped =
        entities.countP (!·.isCuttable) :=
    (settings.arrange_perm entities).countP_eq _
  rw [counted]
  exact List.countP_congr fun entity _ => by
    simp [Entity.isCuttable_eq]

/--
Where ellipses may be skipped, every drawing can be compiled.  Its program is
that of the drawing without its ellipses, in which nothing is skipped, and the
counts tell how many ellipses and how many other entities there are.
-/
theorem compile_skips_ellipses
    (valid : ValidSettings)
    (skips : valid.settings.output.skipUnsupported = true)
    (entities : List Entity) :
    ∃ program,
      valid.compile entities = .ok program ∧
        valid.compile (entities.filter (·.kind ≠ .ellipse)) =
          .ok { program with skipped := 0 } ∧
        program.skipped = entities.countP (·.kind = .ellipse) ∧
        program.emitted = entities.countP (·.kind ≠ .ellipse) ∧
        program.emitted + program.skipped = entities.length := by
  have compiles :
      ∀ others : List Entity,
        valid.compile others =
          .ok (valid.settings.programOf
            (valid.settings.arrange others)) := by
    intro others
    apply valid.compile_of_admits
    intro entity _
    rw [Settings.admits, skips, Bool.or_true]
  have erased :
      entities.filter (·.kind ≠ .ellipse) =
        entities.filter Entity.isCuttable :=
    List.filter_congr fun entity _ => entity.isCuttable_eq.symm
  refine ⟨valid.settings.programOf (valid.settings.arrange entities),
    ?_, ?_, ?_, ?_, ?_⟩
  · exact compiles entities
  · rw [erased, compiles, valid.settings.arrange_filter_isCuttable,
      Settings.programOf_filter_isCuttable]
  · exact valid.settings.skipped_programOf_arrange entities
  · exact valid.settings.emitted_programOf_arrange entities
  · rw [valid.settings.emitted_add_skipped]
    exact (valid.settings.arrange_perm entities).length_eq

/-- An ellipse in the middle of a drawing, whose order is optimized. -/
theorem sample_skips_ellipse :
    ∃ program,
      (Sample.settings.optimizing true).compile Sample.drawing =
          .ok program ∧
        (Sample.settings.optimizing true).compile
            [Sample.line, Sample.circle, Sample.line, Sample.polyline,
              Sample.arc, Sample.line, Sample.emptyPolyline] =
          .ok { program with skipped := 0 } ∧
        program.skipped = 1 ∧
        program.emitted = 7 := by
  obtain ⟨program, compiled, erased, skipped, emitted, -⟩ :=
    compile_skips_ellipses (Sample.settings.optimizing true) rfl
      Sample.drawing
  exact ⟨program, compiled, erased, skipped, emitted⟩

/-! ## The first ellipse of a drawing -/

/-- The same settings with ellipses skipped, or not. -/
def ValidSettings.skipping
    (valid : ValidSettings)
    (skip : Bool) :
    ValidSettings where
  settings :=
    { valid.settings with
      output := { valid.settings.output with skipUnsupported := skip } }
  faultless := valid.faultless

theorem Settings.admits_of_strict
    {settings : Settings}
    (strict : settings.output.skipUnsupported = false)
    (entity : Entity) :
    settings.admits entity = entity.isCuttable := by
  rw [admits, strict, Bool.or_false]

/-- An entity that is not admitted makes a compilation give up, after all
entities before it have been carried out. -/
theorem emitFrom_of_refused
    {settings : Settings}
    {before : List Entity}
    {entity : Entity}
    {cause : EntityError}
    (admitted : ∀ other ∈ before, settings.admits other = true)
    (refused : settings.admits entity = false)
    (fails : entity.calls? = .error cause)
    (after : List Entity)
    (tool : Tool)
    (index : Nat) :
    emitFrom settings tool index (before ++ entity :: after) =
      .error (.entity (index + before.length) entity.label cause) := by
  have strict : settings.output.skipUnsupported = false := by
    rw [Settings.admits, Bool.or_eq_false_iff] at refused
    exact refused.2
  induction before generalizing tool index with
  | nil => simp [emitFrom, fails, strict]
  | cons other before hypothesis =>
      rw [List.forall_mem_cons] at admitted
      obtain ⟨first, further⟩ := admitted
      rw [Settings.admits_of_strict strict, Entity.isCuttable] at first
      cases outcome : other.calls? with
      | ok calls =>
          have place : index + 1 + before.length =
              index + (other :: before).length := by
            rw [List.length_cons]
            omega
          rw [List.cons_append, emitFrom, outcome]
          simp only [hypothesis further, place]
      | error cause =>
          -- Nothing is admitted that fails, since nothing is skipped.
          simp [outcome] at first

/-- A drawing that can be cut as a whole is compiled under any settings. -/
theorem ValidSettings.compile_of_cuttable
    (valid : ValidSettings)
    {entities : List Entity}
    (cuttable : ∀ entity ∈ entities, entity.isCuttable = true) :
    valid.compile entities =
      .ok (valid.settings.programOf
        (valid.settings.arrange entities)) := by
  apply valid.compile_of_admits
  intro entity member
  rw [Settings.admits, cuttable entity member, Bool.true_or]

/-- Settings that skip what cannot be cut never make a compilation fail. -/
theorem ValidSettings.compile_of_skipping
    {valid : ValidSettings}
    (skips : valid.settings.output.skipUnsupported = true)
    (entities : List Entity) :
    valid.compile entities =
      .ok (valid.settings.programOf
        (valid.settings.arrange entities)) := by
  apply valid.compile_of_admits
  intro entity _
  rw [Settings.admits, skips, Bool.or_true]

/-- Settings that skip nothing fail for the drawings that hold an ellipse. -/
theorem ValidSettings.exists_compile_error_iff
    {valid : ValidSettings}
    (strict : valid.settings.output.skipUnsupported = false)
    (entities : List Entity) :
    (∃ fault, valid.compile entities = .error fault) ↔
      ∃ entity ∈ entities, entity.kind = .ellipse := by
  have succeeds := valid.exists_compile_iff entities
  simp only [Settings.admits_of_strict strict,
    Entity.forall_isCuttable_iff] at succeeds
  constructor
  · rintro ⟨fault, fails⟩
    by_contra! noEllipse
    obtain ⟨program, compiled⟩ := succeeds.mpr noEllipse
    rw [compiled] at fails
    cases fails
  · rintro ⟨entity, member, ellipse⟩
    cases outcome : valid.compile entities with
    | error fault => exact ⟨fault, rfl⟩
    | ok program =>
        have noEllipse := succeeds.mp ⟨program, outcome⟩
        exact (noEllipse entity member ellipse).elim

/-- The first entity that is not admitted is blamed by its place in the order
that is arranged. -/
theorem ValidSettings.compile_of_refused
    {valid : ValidSettings}
    {entities before after : List Entity}
    {entity : Entity}
    {cause : EntityError}
    (arranged :
      valid.settings.arrange entities = before ++ entity :: after)
    (admitted : ∀ other ∈ before, valid.settings.admits other = true)
    (refused : valid.settings.admits entity = false)
    (fails : entity.calls? = .error cause) :
    valid.compile entities =
      .error (.entity before.length entity.label cause) := by
  have blamed :=
    emitFrom_of_refused admitted refused fails after Tool.initial 0
  rw [Nat.zero_add] at blamed
  simp only [compile, arranged, blamed]

/-- Where an ellipse comes after entities that can be cut, settings that skip
nothing blame it by its place. -/
theorem ValidSettings.compile_of_ellipse
    {valid : ValidSettings}
    (strict : valid.settings.output.skipUnsupported = false)
    {entities before after : List Entity}
    {shape : Ellipse}
    (arranged :
      valid.settings.arrange entities = before ++ .ellipse shape :: after)
    (cuttable : ∀ entity ∈ before, entity.isCuttable = true) :
    valid.compile entities =
      .error (.entity before.length shape.label
        (.notImplemented .emit shape.label)) := by
  have admitted :
      ∀ entity ∈ before, valid.settings.admits entity = true := by
    intro entity member
    rw [Settings.admits_of_strict strict]
    exact cuttable entity member
  have refused : valid.settings.admits (.ellipse shape) = false :=
    Settings.admits_of_strict strict _
  exact compile_of_refused arranged admitted refused rfl

/-- In an order by proximity, the first ellipse comes after the tour and after
the polylines without chains that were before it. -/
theorem orderByProximity_of_ellipse
    (origin : Point)
    {before after : List Entity}
    {shape : Ellipse}
    (cuttable : ∀ entity ∈ before, entity.isCuttable = true) :
    ∃ earlier later,
      orderByProximity origin (before ++ .ellipse shape :: after) =
          earlier ++ .ellipse shape :: later ∧
        (∀ entity ∈ earlier, entity.isCuttable = true) ∧
        earlier.length =
          (before ++ .ellipse shape :: after).countP Entity.hasStart
            + before.countP Entity.isChainless := by
  have permutation :=
    placedTour_perm origin (before ++ .ellipse shape :: after)
  -- The ellipse splits what follows the tour as it splits the drawing.
  have unplaced :
      (before ++ .ellipse shape :: after).filter (!·.hasStart) =
        before.filter (!·.hasStart)
          ++ .ellipse shape :: after.filter (!·.hasStart) := by
    rw [List.filter_append]
    rfl
  refine ⟨placedTour origin (before ++ .ellipse shape :: after)
      ++ before.filter (!·.hasStart),
    after.filter (!·.hasStart), ?_, ?_, ?_⟩
  · rw [orderByProximity_eq_append, unplaced, List.append_assoc]
  · intro entity member
    rcases List.mem_append.mp member with visited | left
    · have placed := permutation.mem_iff.mp visited
      exact Entity.isCuttable_of_hasStart (List.of_mem_filter placed)
    · exact cuttable entity (List.mem_of_mem_filter left)
  · have chainless :
        before.countP (!·.hasStart) = before.countP Entity.isChainless := by
      apply List.countP_congr
      intro entity member
      rw [Entity.not_hasStart_of_isCuttable (cuttable entity member)]
    rw [List.length_append, permutation.length_eq,
      ← List.countP_eq_length_filter, ← List.countP_eq_length_filter,
      chainless]

/--
Where nothing may be skipped, compilation fails for the drawings that hold an
ellipse, and gives the same program for all others as if it could skip.

The first ellipse of the drawing is the one that is blamed, whether the order is
optimized or not.  The index tells where it is met: at its own place, or in an
optimized order after all entities that have a starting point and after the
polylines without chains before it.
-/
theorem compile_blames_first_ellipse
    (valid : ValidSettings)
    (strict : valid.settings.output.skipUnsupported = false)
    (entities : List Entity) :
    ((∃ fault, valid.compile entities = .error fault) ↔
      ∃ entity ∈ entities, entity.kind = .ellipse) ∧
    ((∀ entity ∈ entities, entity.kind ≠ .ellipse) →
      valid.compile entities = (valid.skipping true).compile entities) ∧
    ∀ before shape after,
      entities = before ++ .ellipse shape :: after →
      (∀ entity ∈ before, entity.kind ≠ .ellipse) →
      valid.compile entities =
        .error (.entity
          (if valid.settings.output.optimizeOrder then
            entities.countP Entity.hasStart
              + before.countP Entity.isChainless
          else before.length)
          shape.label
          (.notImplemented .emit shape.label)) := by
  refine ⟨ValidSettings.exists_compile_error_iff strict entities, ?_, ?_⟩
  · intro noEllipse
    have cuttable := Entity.forall_isCuttable_iff.mpr noEllipse
    rw [valid.compile_of_cuttable cuttable,
      (valid.skipping true).compile_of_cuttable cuttable]
    rfl
  · rintro before shape after rfl noEllipse
    have cuttable := Entity.forall_isCuttable_iff.mpr noEllipse
    cases optimized : valid.settings.output.optimizeOrder with
    | false =>
        have arranged := Settings.arrange_of_unordered optimized
          (before ++ .ellipse shape :: after)
        exact ValidSettings.compile_of_ellipse strict arranged cuttable
    | true =>
        obtain ⟨earlier, later, ordered, cuttableEarlier, place⟩ :=
          orderByProximity_of_ellipse valid.settings.tourOrigin cuttable
        have arranged :
            valid.settings.arrange (before ++ .ellipse shape :: after) =
              earlier ++ .ellipse shape :: later := by
          rw [Settings.arrange, optimized]
          exact ordered
        rw [ValidSettings.compile_of_ellipse strict arranged
          cuttableEarlier, place]
        rfl

/-- An ellipse that an optimized order puts after the six entities that have a
starting point and after one that has none. -/
theorem sample_blames_ellipse :
    ((Sample.settings.skipping false).optimizing true).compile
        (Sample.emptyPolyline :: Sample.drawing) =
      .error (.entity 7 Sample.ellipse.label
        (.notImplemented .emit Sample.ellipse.label)) := by
  obtain ⟨-, -, blames⟩ :=
    compile_blames_first_ellipse
      ((Sample.settings.skipping false).optimizing true) rfl
      (Sample.emptyPolyline :: Sample.drawing)
  have noEllipse :
      ∀ entity ∈ [Sample.emptyPolyline, Sample.line, Sample.circle,
          Sample.line],
        entity.kind ≠ .ellipse := by
    decide
  exact blames _ _ _ rfl noEllipse

end Toolpath
