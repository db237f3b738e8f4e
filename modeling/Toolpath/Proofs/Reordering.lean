import Toolpath.Proofs.Blocks
import Toolpath.Proofs.Tour

/-!
# Reordering

Settings decide whether entities are put in the order of a tour before they are
carried out.  The tour is a permutation, and the block of an entity depends on
the entity and the machine alone.  So reordering permutes the blocks of a body:
no line is lost, doubled or altered, except that a lift is found wherever the
block of a line is followed by another.
-/

namespace Toolpath

/-- Whatever the order that entities are put in, it is a permutation. -/
theorem Settings.arrange_perm
    (settings : Settings)
    (entities : List Entity) :
    (settings.arrange entities).Perm entities := by
  rw [arrange]
  split
  · exact orderByProximity_perm _ entities
  · exact List.Perm.refl entities

/-- A drawing whose entities are all admitted is carried out in the order that
is arranged for it. -/
theorem ValidSettings.compile_of_admits
    (valid : ValidSettings)
    {entities : List Entity}
    (admitted : ∀ entity ∈ entities, valid.settings.admits entity = true) :
    valid.compile entities =
      .ok (valid.settings.programOf
        (valid.settings.arrange entities)) := by
  refine compile_eq_ok_iff.mpr ⟨?_, rfl⟩
  intro entity member
  have listed := (valid.settings.arrange_perm entities).mem_iff.mp member
  exact admitted entity listed

theorem ValidSettings.exists_compile_iff
    (valid : ValidSettings)
    (entities : List Entity) :
    (∃ program, valid.compile entities = .ok program) ↔
      ∀ entity ∈ entities, valid.settings.admits entity = true := by
  constructor
  · rintro ⟨program, compiled⟩ entity member
    have listed := (valid.settings.arrange_perm entities).mem_iff.mpr member
    exact (compile_eq_ok_iff.mp compiled).1 entity listed
  · intro admitted
    exact ⟨_, valid.compile_of_admits admitted⟩

/-- The same settings with the order of entities optimized, or not. -/
def ValidSettings.optimizing
    (valid : ValidSettings)
    (optimize : Bool) :
    ValidSettings where
  settings :=
    { valid.settings with
      output := { valid.settings.output with optimizeOrder := optimize } }
  faultless := valid.faultless

/-- Where tours begin: at home, or at the origin without one. -/
def Settings.tourOrigin (settings : Settings) : Point :=
  settings.output.home.getD Point.origin

theorem ValidSettings.arrange_optimizing_false
    (valid : ValidSettings)
    (entities : List Entity) :
    (valid.optimizing false).settings.arrange entities = entities :=
  rfl

theorem ValidSettings.arrange_optimizing_true
    (valid : ValidSettings)
    (entities : List Entity) :
    (valid.optimizing true).settings.arrange entities =
      orderByProximity valid.settings.tourOrigin entities :=
  rfl

/-- Neither choice of the order changes which entities are admitted. -/
theorem ValidSettings.admits_optimizing
    (valid : ValidSettings)
    (optimize : Bool)
    (entity : Entity) :
    (valid.optimizing optimize).settings.admits entity =
      valid.settings.admits entity :=
  rfl

/-- Compilation succeeds with either order if every entity is admitted. -/
theorem ValidSettings.exists_compile_optimizing_iff
    (valid : ValidSettings)
    (optimize : Bool)
    (entities : List Entity) :
    (∃ program,
      (valid.optimizing optimize).compile entities = .ok program) ↔
      ∀ entity ∈ entities, valid.settings.admits entity = true := by
  rw [exists_compile_iff]
  simp only [admits_optimizing]

/--
Two programs for the same entities, which the first carries out as they are
listed in `entities` and the second as they are listed in `reordered`.
-/
structure Program.Reorders
    (machine : MachineSettings)
    (entities reordered : List Entity)
    (direct optimized : Program) :
    Prop where
  preamble : optimized.preamble = direct.preamble
  postscript : optimized.postscript = direct.postscript
  emitted : optimized.emitted = direct.emitted
  skipped : optimized.skipped = direct.skipped
  /-- One body is made of the blocks of all entities. -/
  direct_body : direct.body = joinBlocks machine [] entities
  /-- The other is made of the same blocks in their new order. -/
  optimized_body : optimized.body = joinBlocks machine [] reordered

/--
Whether the order of entities is optimized or not, compilation succeeds for the
same drawings, and the two programs are made of the same blocks.  These are
empty exactly for ellipses and for polylines without chains, and the tour is a
permutation of the drawing.
-/
theorem optimizing_permutes_blocks
    (valid : ValidSettings)
    (entities : List Entity) :
    ((∃ program,
        (valid.optimizing false).compile entities = .ok program) ↔
      ∃ program,
        (valid.optimizing true).compile entities = .ok program) ∧
    (orderByProximity valid.settings.tourOrigin entities).Perm entities ∧
    (∀ machine (entity : Entity),
      entity.block machine = [] ↔
        (∃ shape, entity = .ellipse shape) ∨
          (∃ shape, entity = .polyline shape ∧ shape.chains = [])) ∧
    ∀ direct optimized,
      (valid.optimizing false).compile entities = .ok direct →
      (valid.optimizing true).compile entities = .ok optimized →
      Program.Reorders valid.settings.machine entities
        (orderByProximity valid.settings.tourOrigin entities)
        direct optimized := by
  have permutation :=
    orderByProximity_perm valid.settings.tourOrigin entities
  refine ⟨?_, permutation, ?_, ?_⟩
  · rw [ValidSettings.exists_compile_optimizing_iff,
      ValidSettings.exists_compile_optimizing_iff]
  · intro machine entity
    rw [entity.block_eq_nil_iff, entity.contributes_eq_false_iff]
  intro direct optimized directCompiled optimizedCompiled
  obtain ⟨-, rfl⟩ := ValidSettings.compile_eq_ok_iff.mp directCompiled
  obtain ⟨-, rfl⟩ := ValidSettings.compile_eq_ok_iff.mp optimizedCompiled
  constructor
  case preamble => rfl
  case postscript => rfl
  case emitted => exact permutation.countP_eq _
  case skipped => exact permutation.countP_eq _
  case direct_body =>
    rw [valid.arrange_optimizing_false]
    exact Settings.body_programOf _ _
  case optimized_body =>
    rw [valid.arrange_optimizing_true]
    exact Settings.body_programOf _ _

/-- Both orders of a drawing whose lines are followed by other entities. -/
theorem sample_reorders :
    ∃ direct optimized,
      (Sample.settings.optimizing false).compile Sample.drawing =
        .ok direct ∧
      (Sample.settings.optimizing true).compile Sample.drawing =
        .ok optimized ∧
      Program.Reorders Sample.settings.settings.machine Sample.drawing
        (orderByProximity Sample.settings.settings.tourOrigin
          Sample.drawing)
        direct optimized := by
  obtain ⟨succeeds, -, -, reorders⟩ :=
    optimizing_permutes_blocks Sample.settings Sample.drawing
  obtain ⟨optimized, compiled⟩ := succeeds.mp ⟨_, rfl⟩
  exact ⟨_, optimized, rfl, compiled,
    reorders _ optimized rfl compiled⟩

end Toolpath
