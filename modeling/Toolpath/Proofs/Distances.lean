import Toolpath.Entity.Start
import Toolpath.Proofs.OppositeDoubles

/-!
# Distances between entities

The distance from one entity to another is the distance back, as the same
double: no rounding, overflow or NaN tells the directions apart.  It exists
exactly if both entities have a starting point.  Otherwise both directions fail,
and each blames the entity that it starts from if this one lacks a starting
point, and the other one if not.
-/

namespace Toolpath

namespace Point

/-- The way back is as long as the way there. -/
theorem distanceTo_comm (source target : Point) :
    target.distanceTo source = source.distanceTo target := by
  simp only [distanceTo]
  rw [Number.sub_mul_sub_swapped source.x target.x,
    Number.sub_mul_sub_swapped source.y target.y]

theorem distanceTo_self
    {point : Point}
    (finite : point.isFinite = true) :
    point.distanceTo point = 0.0 := by
  obtain ⟨across, along⟩ := (Bool.and_eq_true ..).mp finite
  simp only [distanceTo, Number.sub_eq_zero_of_isFinite across,
    Number.sub_eq_zero_of_isFinite along]
  decide +kernel

end Point

namespace Entity

/-! ## Outcomes of a measurement -/

/-- The three ways in which a measurement can end. -/
theorem distanceTo?_cases (source target : Entity) :
    (∃ first second,
      source.start? = .ok first ∧ target.start? = .ok second ∧
        source.distanceTo? target = .ok (first.distanceTo second)) ∨
    (∃ cause,
      source.start? = .error cause ∧
        source.distanceTo? target =
          .error (.unmeasurable source.label cause)) ∨
    (∃ first cause,
      source.start? = .ok first ∧ target.start? = .error cause ∧
        source.distanceTo? target =
          .error (.unmeasurable target.label cause)) := by
  cases start : source.start? with
  | error cause =>
      exact .inr (.inl ⟨cause, rfl, distanceTo?_of_source_error start⟩)
  | ok first =>
      cases finish : target.start? with
      | error cause =>
          exact .inr (.inr
            ⟨first, cause, rfl, rfl, distanceTo?_of_target_error start finish⟩)
      | ok second =>
          exact .inl
            ⟨first, second, rfl, rfl, distanceTo?_of_starts start finish⟩

end Entity

/-- An error is reported as invalid geometry.  It says that an entity cannot be
measured from, and why the entity has no starting point. -/
def EntityError.BlamesStart
    (failure : EntityError)
    (entity : Entity) :
    Prop :=
  ∃ cause,
    entity.start? = .error cause ∧
      failure = .unmeasurable entity.label cause ∧
      failure.family = .invalidGeometry ∧
      failure.message =
        "Invalid geometry: cannot measure distance from " ++ entity.label
          ++ ": " ++ cause.message

theorem EntityError.blamesStart_iff
    {failure : EntityError}
    {entity : Entity} :
    failure.BlamesStart entity ↔
      ∃ cause, entity.start? = .error cause ∧
        failure = .unmeasurable entity.label cause := by
  constructor
  · rintro ⟨cause, absent, same, -⟩
    exact ⟨cause, absent, same⟩
  · rintro ⟨cause, absent, rfl⟩
    exact ⟨cause, absent, rfl, rfl, rfl⟩

namespace Entity

/-! ## Both directions -/

section Directions

variable {source target : Entity}

/-- There is a distance exactly if both entities have a starting point. -/
theorem exists_distanceTo?_iff :
    (∃ distance, source.distanceTo? target = .ok distance) ↔
      (∃ start, source.start? = .ok start) ∧
        ∃ start, target.start? = .ok start := by
  constructor
  · rintro ⟨distance, measured⟩
    rcases source.distanceTo?_cases target with
      ⟨first, second, start, finish, -⟩ | ⟨cause, -, failed⟩ |
        ⟨-, cause, -, -, failed⟩
    · exact ⟨⟨first, start⟩, second, finish⟩
    · rw [failed] at measured
      cases measured
    · rw [failed] at measured
      cases measured
  · rintro ⟨⟨first, start⟩, second, finish⟩
    exact ⟨_, distanceTo?_of_starts start finish⟩

/-- Where there is no distance, the entity to measure from is blamed if it lacks
a starting point, and else the other one. -/
theorem distanceTo?_eq_error_iff {failure : EntityError} :
    source.distanceTo? target = .error failure ↔
      failure.BlamesStart source ∨
        (∃ start, source.start? = .ok start) ∧
          failure.BlamesStart target := by
  simp only [EntityError.blamesStart_iff]
  constructor
  · intro failed
    rcases source.distanceTo?_cases target with
      ⟨first, second, -, -, measured⟩ | ⟨cause, absent, blamed⟩ |
        ⟨first, cause, start, absent, blamed⟩
    · rw [measured] at failed
      cases failed
    · rw [blamed] at failed
      exact .inl ⟨cause, absent, (Except.error.inj failed).symm⟩
    · rw [blamed] at failed
      exact .inr
        ⟨⟨first, start⟩, cause, absent, (Except.error.inj failed).symm⟩
  · rintro (⟨cause, absent, rfl⟩ | ⟨⟨first, start⟩, cause, absent, rfl⟩)
    · exact distanceTo?_of_source_error absent
    · exact distanceTo?_of_target_error start absent

/-- What is measured in one direction is measured in the other one. -/
theorem distanceTo?_swapped
    {distance : Float}
    (measured : source.distanceTo? target = .ok distance) :
    target.distanceTo? source = .ok distance := by
  obtain ⟨⟨first, start⟩, second, finish⟩ :=
    exists_distanceTo?_iff.mp ⟨distance, measured⟩
  rw [distanceTo?_of_starts start finish] at measured
  rw [distanceTo?_of_starts finish start, Point.distanceTo_comm first second]
  exact measured

end Directions

/-- What two entities say of their distance from each other. -/
structure MeasuredAlike (first second : Entity) : Prop where
  /-- There is a distance exactly if both have a starting point. -/
  exists_iff :
    (∃ distance, first.distanceTo? second = .ok distance) ↔
      (∃ start, first.start? = .ok start) ∧
        ∃ start, second.start? = .ok start
  /-- The way back is as long, as the same double. -/
  back_iff : ∀ distance,
    second.distanceTo? first = .ok distance ↔
      first.distanceTo? second = .ok distance
  /-- The distance is that of the starting points. -/
  between_starts : ∀ start other,
    first.start? = .ok start → second.start? = .ok other →
      first.distanceTo? second = .ok (start.distanceTo other)
  /-- A direction fails on the entity that it starts from if this one lacks a
  starting point, and else on the other one. -/
  error_iff : ∀ failure,
    first.distanceTo? second = .error failure ↔
      failure.BlamesStart first ∨
        (∃ start, first.start? = .ok start) ∧ failure.BlamesStart second
  back_error_iff : ∀ failure,
    second.distanceTo? first = .error failure ↔
      failure.BlamesStart second ∨
        (∃ start, second.start? = .ok start) ∧ failure.BlamesStart first

/-- All entities are measured from each other alike, and the distance of an
entity from itself is zero if it starts at a finite point. -/
theorem distances_symmetric (first second : Entity) :
    MeasuredAlike first second ∧
      ∀ start, first.start? = .ok start → start.isFinite = true →
        first.distanceTo? first = .ok 0.0 := by
  constructor
  · constructor
    case exists_iff => exact exists_distanceTo?_iff
    case back_iff =>
      exact fun distance => ⟨distanceTo?_swapped, distanceTo?_swapped⟩
    case between_starts =>
      exact fun start other begins ends => distanceTo?_of_starts begins ends
    case error_iff => exact fun failure => distanceTo?_eq_error_iff
    case back_error_iff => exact fun failure => distanceTo?_eq_error_iff
  · intro start begins finite
    rw [distanceTo?_of_starts begins begins, Point.distanceTo_self finite]

end Entity

end Toolpath
