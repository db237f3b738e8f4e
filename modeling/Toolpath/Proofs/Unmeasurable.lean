import Mathlib
import Toolpath.Proofs.GreedyTour

/-!
# Unmeasurable entities on a tour

A line may start at a point that holds a NaN.  Every distance to it and from it
is then a NaN.  A search forgets all candidates before such an entity, so that a
tour first goes through the entities after it, then to the entity itself, from
which it goes on with the last entity that is left.

Thus the tour through the other entities is kept only where these come last.
-/

namespace Toolpath

/-! ## Distances that are undefined -/

/-- Whether a coordinate is a NaN. -/
def Point.hasNaN (point : Point) : Bool := point.x.isNaN || point.y.isNaN

theorem Point.isNaN_distanceTo
    {source target : Point}
    (undefined : source.hasNaN = true ∨ target.hasNaN = true) :
    (source.distanceTo target).isNaN = true := by
  have coordinates :
      (target.x - source.x).isNaN = true ∨
        (target.y - source.y).isNaN = true := by
    simp only [hasNaN, Bool.or_eq_true] at undefined
    rcases undefined with (left | below) | (right | above)
    · exact Or.inl (Number.isNaN_sub (Or.inr left))
    · exact Or.inr (Number.isNaN_sub (Or.inr below))
    · exact Or.inl (Number.isNaN_sub (Or.inl right))
    · exact Or.inr (Number.isNaN_sub (Or.inl above))
  refine Number.isNaN_sqrt (Number.isNaN_add ?_)
  exact coordinates.imp (fun undefined => Number.isNaN_mul (Or.inl undefined))
    fun undefined => Number.isNaN_mul (Or.inl undefined)

namespace Entity

/-- Whether an entity starts at a point that holds a NaN. -/
def isUnmeasurable (entity : Entity) : Bool :=
  match entity.start? with
  | .ok start => start.hasNaN
  | .error _ => false

theorem hasStart_of_isUnmeasurable
    {entity : Entity}
    (unmeasurable : entity.isUnmeasurable = true) :
    entity.hasStart = true := by
  rw [isUnmeasurable] at unmeasurable
  rw [hasStart]
  cases start : entity.start? with
  | ok point => rfl
  | error cause => simp [start] at unmeasurable

end Entity

/-- The distance of an entity is a NaN. -/
def IsUndefined
    (distance : Entity → Option Float)
    (entity : Entity) :
    Prop :=
  ∃ value, distance entity = some value ∧ value.isNaN = true

theorem Entity.isUndefined_distanceFrom?
    (origin : Point)
    {entity : Entity}
    (unmeasurable : entity.isUnmeasurable = true) :
    IsUndefined (Entity.distanceFrom? origin) entity := by
  rw [isUnmeasurable] at unmeasurable
  rw [IsUndefined, distanceFrom?]
  cases start : entity.start? with
  | ok point =>
      simp only [start] at unmeasurable
      exact ⟨_, rfl, Point.isNaN_distanceTo (Or.inr unmeasurable)⟩
  | error cause => simp [start] at unmeasurable

/-- Where each entity stands from another one. -/
def Entity.distances (source : Entity) : Entity → Option Float :=
  fun next => (source.distanceTo? next).toOption

theorem Entity.isUndefined_distances
    {source target : Entity}
    (sourcePlaced : source.hasStart = true)
    (targetPlaced : target.hasStart = true)
    (undefined :
      source.isUnmeasurable = true ∨ target.isUnmeasurable = true) :
    IsUndefined source.distances target := by
  rw [hasStart] at sourcePlaced targetPlaced
  simp only [isUnmeasurable] at undefined
  cases sourceStart : source.start? with
  | error cause => simp [sourceStart] at sourcePlaced
  | ok first =>
      cases targetStart : target.start? with
      | error cause => simp [targetStart] at targetPlaced
      | ok second =>
          simp only [sourceStart, targetStart] at undefined
          refine ⟨first.distanceTo second, ?_,
            Point.isNaN_distanceTo undefined⟩
          rw [distances, distanceTo?_of_starts sourceStart targetStart]
          rfl

/-! ## Rounds that meet an unmeasurable entity -/

/-- A visit to an entity between two parts of a list. -/
theorem Visits.visit_between
    {distance : Entity → Option Float}
    {before after tour : List Entity}
    {chosen : Entity}
    (found :
      nearest distance (before ++ chosen :: after) = some before.length)
    (further : Visits chosen.distances (before ++ after) tour) :
    Visits distance (before ++ chosen :: after) (chosen :: tour) := by
  refine Visits.visit found ?_ ?_
  · exact getElem?_between
  · rwa [eraseIdx_between]

/-- An entity with an undefined distance is visited after all that stand behind
it, and the rounds go on from there with all that stand before it. -/
theorem Visits.append_undefined
    {distance : Entity → Option Float}
    {back tour front later : List Entity}
    {disturbing : Entity}
    (visits : Visits distance back tour)
    (reachable : Reachable distance back)
    (unmeasurable : disturbing.isUnmeasurable = true)
    (undefined : IsUndefined distance disturbing)
    (rest : Visits disturbing.distances front later) :
    Visits distance (front ++ disturbing :: back)
      (tour ++ disturbing :: later) := by
  have placed := Entity.hasStart_of_isUnmeasurable unmeasurable
  -- As long as anything is left behind the entity, the search finds what it
  -- would find there alone; from wherever this leads, the distance to the
  -- entity is undefined again.
  induction visits with
  | @ended distance back nothing =>
      have empty : back = [] :=
        ((Visits.ended nothing).perm reachable).nil_eq.symm
      subst empty
      obtain ⟨value, measured, notANumber⟩ := undefined
      refine Visits.visit_between ?_ (by rwa [List.append_nil])
      rw [nearest_append_of_isNaN measured notANumber, nothing,
        Option.elim_none]
  | @visit distance back tour place chosen found listed further hypothesis =>
      have chosenPlaced :=
        reachable.placed chosen (List.mem_of_getElem? listed)
      obtain ⟨value, measured, notANumber⟩ := undefined
      have behind : front.length + 1 + place = front.length + (place + 1) := by
        omega
      have foundBehind :
          nearest distance (front ++ disturbing :: back) =
            some (front.length + 1 + place) := by
        rw [nearest_append_of_isNaN measured notANumber, found,
          Option.elim_some]
      have listedBehind :
          (front ++ disturbing :: back)[front.length + 1 + place]? =
            some chosen := by
        rw [behind, List.getElem?_append_right (Nat.le_add_right _ _),
          Nat.add_sub_cancel_left, List.getElem?_cons_succ]
        exact listed
      have left :
          (front ++ disturbing :: back).eraseIdx (front.length + 1 + place) =
            front ++ disturbing :: back.eraseIdx place := by
        rw [behind, List.eraseIdx_append_of_length_le (Nat.le_add_right _ _),
          Nat.add_sub_cancel_left, List.eraseIdx_cons_succ]
      refine Visits.visit foundBehind listedBehind ?_
      rw [left]
      exact hypothesis (reachable.after_visit listed)
        (Entity.isUndefined_distances chosenPlaced placed
          (Or.inr unmeasurable))

/-! ## Starting again -/

/-- The tour that goes on, as long as anything is left, with the last entity. -/
def restart (entities : List Entity) : List Entity :=
  match entities.getLast? with
  | none => []
  | some last =>
    last
      :: tourFrom last.distances entities.dropLast entities.dropLast.length

/-- All rounds of a tour from an entity are rounds. -/
theorem visits_distances
    {source : Entity}
    {left : List Entity}
    (sourcePlaced : source.hasStart = true)
    (placed : ∀ entity ∈ left, entity.hasStart = true) :
    Visits source.distances left
      (tourFrom source.distances left left.length) := by
  have reachable : Reachable source.distances left :=
    ⟨placed, fun entity member =>
      Entity.isSome_distanceTo? sourcePlaced (placed entity member)⟩
  exact reachable.visits_tourFrom rfl

/-- From an unmeasurable entity the rounds go on with the last entity. -/
theorem visits_restart
    {disturbing : Entity}
    (unmeasurable : disturbing.isUnmeasurable = true)
    {front : List Entity}
    (placed : ∀ entity ∈ front, entity.hasStart = true) :
    Visits disturbing.distances front (restart front) := by
  rcases List.eq_nil_or_concat front with rfl | ⟨others, last, rfl⟩
  · exact Visits.ended rfl
  · rw [List.concat_eq_append] at placed ⊢
    have lastPlaced := placed last (by simp)
    have othersPlaced :
        ∀ entity ∈ others, entity.hasStart = true :=
      fun entity member => placed entity (List.mem_append_left _ member)
    obtain ⟨value, measured, notANumber⟩ :=
      Entity.isUndefined_distances
        (Entity.hasStart_of_isUnmeasurable unmeasurable) lastPlaced
        (Or.inl unmeasurable)
    rw [restart, List.getLast?_append_cons, List.getLast?_singleton,
      List.dropLast_concat]
    refine Visits.visit_between ?_ ?_
    · rw [nearest_append_of_isNaN measured notANumber]
      rfl
    · rw [List.append_nil]
      exact visits_distances lastPlaced othersPlaced

/-- A tour goes through the entities behind an unmeasurable one, then to this
one, and starts again with the last of those that stand before it. -/
theorem placedTour_append
    (origin : Point)
    (front back : List Entity)
    {disturbing : Entity}
    (unmeasurable : disturbing.isUnmeasurable = true) :
    placedTour origin (front ++ disturbing :: back) =
      placedTour origin back
        ++ disturbing :: restart (front.filter Entity.hasStart) := by
  have split :
      (front ++ disturbing :: back).filter Entity.hasStart =
        front.filter Entity.hasStart
          ++ disturbing :: back.filter Entity.hasStart := by
    rw [List.filter_append, List.filter_cons_of_pos
      (Entity.hasStart_of_isUnmeasurable unmeasurable)]
  have visits := visits_placedTour origin (front ++ disturbing :: back)
  rw [split] at visits
  have starting :
      Visits disturbing.distances (front.filter Entity.hasStart)
        (restart (front.filter Entity.hasStart)) :=
    visits_restart unmeasurable fun entity member =>
      List.of_mem_filter member
  exact ((visits_placedTour origin back).append_undefined
    (reachable_placed origin back) unmeasurable
    (Entity.isUndefined_distanceFrom? origin unmeasurable)
    starting).unique visits

/-! ## Where the other entities are not disturbed -/

/-- No entity that can be measured stands before an unmeasurable one. -/
def UnmeasurableFirst (entities : List Entity) : Prop :=
  entities.Pairwise fun earlier later =>
    later.isUnmeasurable = true → earlier.hasStart = true →
      earlier.isUnmeasurable = true

/-- Unmeasurable entities before all others are visited after them, the last one
first. -/
theorem placedTour_of_unmeasurableFirst
    (origin : Point)
    {entities : List Entity}
    (first : UnmeasurableFirst entities) :
    placedTour origin entities =
      placedTour origin (entities.filter (!·.isUnmeasurable))
        ++ (entities.filter Entity.isUnmeasurable).reverse := by
  induction entities with
  | nil => rfl
  | cons entity entities hypothesis =>
      obtain ⟨earlier, others⟩ := List.pairwise_cons.mp first
      cases unmeasurable : entity.isUnmeasurable with
      | true =>
          have moved := placedTour_append origin [] entities unmeasurable
          rw [List.nil_append] at moved
          rw [moved, hypothesis others,
            List.filter_cons_of_neg (by simp [unmeasurable]),
            List.filter_cons_of_pos unmeasurable, List.reverse_cons,
            List.append_assoc]
          rfl
      | false =>
          cases placed : entity.hasStart with
          | false =>
              have skipped : ∀ left : List Entity,
                  placedTour origin (entity :: left) =
                    placedTour origin left := by
                intro left
                rw [placedTour, List.filter_cons_of_neg (by simp [placed])]
                rfl
              rw [skipped, hypothesis others,
                List.filter_cons_of_pos (by simp [unmeasurable]), skipped,
                List.filter_cons_of_neg (by simp [unmeasurable])]
          | true =>
              -- Behind an entity that can be measured there is no other kind.
              have measurable :
                  ∀ other ∈ entity :: entities,
                    other.isUnmeasurable = false := by
                intro other member
                rcases List.mem_cons.mp member with rfl | later
                · exact unmeasurable
                · by_contra disturbing
                  rw [Bool.not_eq_false] at disturbing
                  have contrary := earlier other later disturbing placed
                  rw [unmeasurable] at contrary
                  cases contrary
              rw [List.filter_eq_self.mpr fun other member => by
                  simp [measurable other member],
                List.filter_eq_nil_iff.mpr fun other member => by
                  simp [measurable other member],
                List.reverse_nil, List.append_nil]

/-- Unmeasurable entities before all others can be left out. -/
theorem filter_placedTour
    (origin : Point)
    {entities : List Entity}
    (first : UnmeasurableFirst entities) :
    (placedTour origin entities).filter (!·.isUnmeasurable) =
      placedTour origin (entities.filter (!·.isUnmeasurable)) := by
  have others :
      ∀ entity ∈ placedTour origin (entities.filter (!·.isUnmeasurable)),
        (!entity.isUnmeasurable) = true := by
    intro entity member
    have visited :=
      (placedTour_perm origin (entities.filter (!·.isUnmeasurable))).subset
        member
    exact (List.mem_filter.mp (List.mem_of_mem_filter visited)).2
  have disturbing :
      ∀ entity ∈ (entities.filter Entity.isUnmeasurable).reverse,
        ¬ (!entity.isUnmeasurable) = true := by
    intro entity member
    simp [List.of_mem_filter (List.mem_reverse.mp member)]
  rw [placedTour_of_unmeasurableFirst origin first, List.filter_append,
    List.filter_eq_self.mpr others, List.filter_eq_nil_iff.mpr disturbing,
    List.append_nil]

theorem filter_orderByProximity
    (origin : Point)
    {entities : List Entity}
    (first : UnmeasurableFirst entities) :
    (orderByProximity origin entities).filter (!·.isUnmeasurable) =
      orderByProximity origin (entities.filter (!·.isUnmeasurable)) := by
  rw [orderByProximity_eq_append, orderByProximity_eq_append,
    List.filter_append, filter_placedTour origin first, List.filter_comm]

/--
What an unmeasurable entity does to a tour, wherever it stands: the entities
behind it are visited first, and the tour starts again with the last of those
before it.

Where all unmeasurable entities stand first, the others are visited as if these
were not there, so that each of them is the nearest that is left.
-/
theorem measurable_order
    (origin : Point)
    (entities : List Entity) :
    (∀ front disturbing back,
      entities = front ++ disturbing :: back →
      disturbing.isUnmeasurable = true →
      placedTour origin entities =
        placedTour origin back
          ++ disturbing :: restart (front.filter Entity.hasStart)) ∧
    (UnmeasurableFirst entities →
      (orderByProximity origin entities).filter (!·.isUnmeasurable) =
        orderByProximity origin (entities.filter (!·.isUnmeasurable)) ∧
      (IsMeasurable origin (entities.filter (!·.isUnmeasurable)) →
        ∃ tour,
          IsStableGreedy origin (entities.filter (!·.isUnmeasurable)) tour ∧
          (placedTour origin entities).filter (!·.isUnmeasurable) =
            tour.map Prod.fst)) := by
  constructor
  · rintro front disturbing back rfl unmeasurable
    exact placedTour_append origin front back unmeasurable
  · intro first
    refine ⟨filter_orderByProximity origin first, fun measurable => ?_⟩
    obtain ⟨tour, stable, same⟩ := exists_isStableGreedy measurable
    exact ⟨tour, stable, (filter_placedTour origin first).trans same⟩

/-- A line that starts at a NaN, given before two others. -/
theorem measurable_order_disturbed_first :
    let drawing := [0.0 / 0.0, 5.0, 1.0].map lineFrom
    UnmeasurableFirst drawing ∧
      IsMeasurable Point.origin (drawing.filter (!·.isUnmeasurable)) ∧
      ∃ tour,
        IsStableGreedy Point.origin (drawing.filter (!·.isUnmeasurable))
            tour ∧
          (placedTour Point.origin drawing).filter (!·.isUnmeasurable) =
            tour.map Prod.fst := by
  intro drawing
  have disturbing : (lineFrom (0.0 / 0.0)).isUnmeasurable = true := by
    decide +kernel
  have far : (lineFrom 5.0).isUnmeasurable = false := by decide +kernel
  have near : (lineFrom 1.0).isUnmeasurable = false := by decide +kernel
  have others :
      drawing.filter (!·.isUnmeasurable) = [5.0, 1.0].map lineFrom := by
    simp [drawing, disturbing, far, near]
  have first : UnmeasurableFirst drawing := by
    simp [drawing, UnmeasurableFirst, disturbing, far, near]
  have measurable :
      IsMeasurable Point.origin (drawing.filter (!·.isUnmeasurable)) := by
    rw [others]
    exact isMeasurable_lines (by decide +kernel) (by decide +kernel)
  exact ⟨first, measurable,
    ((measurable_order Point.origin drawing).2 first).2 measurable⟩

/-- The nearest of three lines is visited last, because a line that starts at a
NaN stands between it and the farthest one. -/
theorem nearest_line_visited_last :
    let drawing := [lineFrom 1.0, lineFrom (0.0 / 0.0), lineFrom 5.0]
    Point.origin.isFinite = true ∧
      (orderByProximity Point.origin drawing).map Entity.label =
        ["Line from [5.00, 0.00] to [5.00, 1.00]",
          "Line from [NaN, 0.00] to [NaN, 1.00]",
          "Line from [1.00, 0.00] to [1.00, 1.00]"] ∧
      (orderByProximity Point.origin drawing).filter (!·.isUnmeasurable) ≠
        orderByProximity Point.origin
          (drawing.filter (!·.isUnmeasurable)) := by
  refine ⟨by decide +kernel, by decide +kernel, fun same => ?_⟩
  have labels := congrArg (List.map Entity.label) same
  revert labels
  decide +kernel

end Toolpath
