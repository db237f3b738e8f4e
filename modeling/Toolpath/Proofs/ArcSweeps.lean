import Mathlib
import Toolpath.Proofs.ImportedRecords
import Toolpath.Proofs.RoundedArithmetic

/-!
# The sweep of imported arcs

An arc of a drawing runs counter-clockwise from its start angle to its end
angle, which are given in degrees and may be any finite numbers.  An import
turns them into radians and moves an end that lies before the start on by one
turn.  One turn is enough exactly if the radians of the start are at most those
of the end and one turn more.  That is so for angles in order and for angles
within the usual turns.  It is not so for an end that lies further behind, nor
for every end that lies one turn behind, because the radians are rounded.
-/

namespace Toolpath

open Number

/-! ## The direction of an arc -/

theorem Arc.finite_angles (arc : Arc) :
    arc.startAngle.isFinite = true ∧ arc.endAngle.isFinite = true :=
  (Bool.and_eq_true ..).mp arc.angles_finite

/-- The angles of an arc tell its direction: their difference is not rounded
to zero. -/
theorem Arc.direction_eq_counterclockwise_iff (arc : Arc) :
    arc.direction = .counterclockwise ↔ arc.startAngle ≤ arc.endAngle := by
  obtain ⟨startFinite, endFinite⟩ := arc.finite_angles
  rw [← not_lt_iff_le (isNaN_eq_false endFinite) (isNaN_eq_false startFinite),
    ← sub_lt_zero_iff endFinite startFinite, direction]
  split
  next negative => simp [negative]
  next positive => simp [positive]

/-! ## Radians -/

theorem radians_mono
    {degrees other : Float}
    (finite : degrees.isFinite = true)
    (otherFinite : other.isFinite = true)
    (below : degrees ≤ other) :
    radians degrees ≤ radians other :=
  mul_le_mul_of_le finite otherFinite (by decide +kernel)
    (by decide +kernel) below

/-- Finite degrees have finite radians, to which a turn can be added. -/
theorem isFinite_radians
    {degrees : Float}
    (finite : degrees.isFinite = true) :
    (radians degrees).isFinite = true ∧
      (radians degrees + fullTurn).isFinite = true := by
  obtain ⟨above, below⟩ := between_largest finite
  have low : (-largest).isFinite = true := by decide +kernel
  have high : largest.isFinite = true := by decide +kernel
  have radiansFinite : (radians degrees).isFinite = true :=
    isFinite_of_le_of_le (by decide +kernel) (by decide +kernel)
      (radians_mono low finite above) (radians_mono finite high below)
  have least :
      radians (-largest) + fullTurn ≤ radians degrees + fullTurn :=
    add_le_add_of_le (by decide +kernel) radiansFinite (by decide +kernel)
      (radians_mono low finite above)
  have most : radians degrees + fullTurn ≤ radians largest + fullTurn :=
    add_le_add_of_le radiansFinite (by decide +kernel) (by decide +kernel)
      (radians_mono finite high below)
  exact ⟨radiansFinite,
    isFinite_of_le_of_le (by decide +kernel) (by decide +kernel) least most⟩

theorem radians_le_add_fullTurn
    {degrees : Float}
    (finite : degrees.isFinite = true) :
    radians degrees ≤ radians degrees + fullTurn :=
  le_add_of_nonneg (isFinite_radians finite).1 (by decide +kernel)
    (by decide +kernel)

/-! ## The angles of a sweep -/

theorem isFinite_sweepAngles
    {startDegrees endDegrees : Float}
    (startFinite : startDegrees.isFinite = true)
    (endFinite : endDegrees.isFinite = true) :
    ((sweepAngles startDegrees endDegrees).1.isFinite &&
      (sweepAngles startDegrees endDegrees).2.isFinite) = true := by
  obtain ⟨start, -⟩ := isFinite_radians startFinite
  obtain ⟨finish, moved⟩ := isFinite_radians endFinite
  simp only [sweepAngles]
  split
  next => simp [start, moved]
  next => simp [start, finish]

/-- One turn brings the end behind the start exactly if it is at most one turn
before it. -/
theorem sweepAngles_le_iff
    {startDegrees endDegrees : Float}
    (startFinite : startDegrees.isFinite = true)
    (endFinite : endDegrees.isFinite = true) :
    (sweepAngles startDegrees endDegrees).1 ≤
        (sweepAngles startDegrees endDegrees).2 ↔
      radians startDegrees ≤ radians endDegrees + fullTurn := by
  have start := isNaN_eq_false (isFinite_radians startFinite).1
  have finish := isNaN_eq_false (isFinite_radians endFinite).1
  simp only [sweepAngles]
  split
  next => rfl
  next ordered =>
    have below := (not_lt_iff_le finish start).mp ordered
    exact iff_of_true below
      (Number.le_trans below (radians_le_add_fullTurn endFinite))

-- Degrees that are one turn apart need not be so in radians.
example : ¬ radians 1.0 ≤ radians (-359.0) + fullTurn := by decide +kernel

/-- A sweep that one turn is enough for leaves one turn enough when it is
extended at either end. -/
theorem radians_le_add_fullTurn_of_le
    {startDegrees endDegrees later earlier : Float}
    (startFinite : startDegrees.isFinite = true)
    (endFinite : endDegrees.isFinite = true)
    (laterFinite : later.isFinite = true)
    (earlierFinite : earlier.isFinite = true)
    (before : startDegrees ≤ later)
    (after : earlier ≤ endDegrees)
    (enough : radians later ≤ radians earlier + fullTurn) :
    radians startDegrees ≤ radians endDegrees + fullTurn :=
  Number.le_trans (radians_mono startFinite laterFinite before)
    (Number.le_trans enough
      (add_le_add_of_le (isFinite_radians earlierFinite).1
        (isFinite_radians endFinite).1 (by decide +kernel)
        (radians_mono earlierFinite endFinite after)))

/-- Degrees that are in order, or that lie in one of the usual turns, which
begin at zero or at half a turn before it. -/
def WithinTurn (startDegrees endDegrees : Float) : Prop :=
  startDegrees ≤ endDegrees ∨
    startDegrees ≤ 360.0 ∧ 0.0 ≤ endDegrees ∨
    startDegrees ≤ 180.0 ∧ -180.0 ≤ endDegrees

theorem WithinTurn.enough
    {startDegrees endDegrees : Float}
    (within : WithinTurn startDegrees endDegrees)
    (startFinite : startDegrees.isFinite = true)
    (endFinite : endDegrees.isFinite = true) :
    radians startDegrees ≤ radians endDegrees + fullTurn := by
  rcases within with ordered | ⟨before, after⟩ | ⟨before, after⟩
  · exact Number.le_trans (radians_mono startFinite endFinite ordered)
      (radians_le_add_fullTurn endFinite)
  · exact radians_le_add_fullTurn_of_le startFinite endFinite
      (by decide +kernel) (by decide +kernel) before after (by decide +kernel)
  · exact radians_le_add_fullTurn_of_le startFinite endFinite
      (by decide +kernel) (by decide +kernel) before after (by decide +kernel)

/-! ## Imported arcs -/

/-- Every arc with a sound center, a sound radius and finite angles is
imported.  It runs counter-clockwise just if its end is not before its start,
and that is the case exactly if the radians of its end and one turn more reach
those of its start; in particular it is the case for degrees in order and for
degrees within a usual turn. -/
theorem imported_arc_counterclockwise_iff
    {center : Point}
    {radius startDegrees endDegrees : Float}
    (centerFinite : center.isFinite = true)
    (radiusSound : isRadius radius = true)
    (startFinite : startDegrees.isFinite = true)
    (endFinite : endDegrees.isFinite = true) :
    ∃ shape : Arc,
      (DrawingRecord.arc center radius startDegrees endDegrees).entity? =
          some (.arc shape) ∧
        (shape.direction = .counterclockwise ↔
          shape.startAngle ≤ shape.endAngle) ∧
        (shape.startAngle ≤ shape.endAngle ↔
          radians startDegrees ≤ radians endDegrees + fullTurn) ∧
        (WithinTurn startDegrees endDegrees →
          shape.direction = .counterclockwise) := by
  let shape : Arc :=
    { center
      radius
      startAngle := (sweepAngles startDegrees endDegrees).1
      endAngle := (sweepAngles startDegrees endDegrees).2
      center_finite := centerFinite
      radius_valid := radiusSound
      angles_finite := isFinite_sweepAngles startFinite endFinite }
  have imported := (DrawingRecord.Describes.arc shape rfl).entity?_eq
  have runs := shape.direction_eq_counterclockwise_iff
  have reaches : shape.startAngle ≤ shape.endAngle ↔
      radians startDegrees ≤ radians endDegrees + fullTurn :=
    sweepAngles_le_iff startFinite endFinite
  refine ⟨shape, imported, runs, reaches, fun within => ?_⟩
  exact runs.mpr (reaches.mpr (within.enough startFinite endFinite))

/-- An arc across zero degrees. -/
theorem sample_arc_counterclockwise :
    ∃ shape : Arc,
      (DrawingRecord.arc .origin 1.0 350.0 10.0).entity? =
          some (.arc shape) ∧
        shape.direction = .counterclockwise := by
  obtain ⟨shape, imported, -, -, runs⟩ :=
    @imported_arc_counterclockwise_iff .origin 1.0 350.0 10.0
      (by decide +kernel) (by decide +kernel) (by decide +kernel)
      (by decide +kernel)
  exact ⟨shape, imported,
    runs (.inr (.inl ⟨by decide +kernel, by decide +kernel⟩))⟩

/-- An arc that starts two turns behind zero and ends at a quarter of a turn is
imported with its end before its start. -/
theorem arc_two_turns_behind_clockwise :
    ∃ shape : Arc,
      (DrawingRecord.arc .origin 1.0 720.0 90.0).entity? =
          some (.arc shape) ∧
        shape.direction = .clockwise ∧
        ¬ shape.startAngle ≤ shape.endAngle := by
  let shape : Arc :=
    { center := .origin
      radius := 1.0
      startAngle := (sweepAngles 720.0 90.0).1
      endAngle := (sweepAngles 720.0 90.0).2
      center_finite := by decide +kernel
      radius_valid := by decide +kernel
      angles_finite := by decide +kernel }
  exact ⟨shape, (DrawingRecord.Describes.arc shape rfl).entity?_eq,
    by decide +kernel, by decide +kernel⟩

end Toolpath
