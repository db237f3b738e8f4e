import Mathlib
import Toolpath.Proofs.NearestCandidate

/-!
# Orders by proximity are stable greedy tours

Unless a distance is a NaN, each round of a tour goes to the nearest entity that
is left, and among several to the one that was given first.  To tell entities
apart that are alike, each carries the place at which it was given.  The rule
leaves no choice, so that it determines the order.
-/

namespace Toolpath

/-! ## Greedy tours -/

/-- One entity is to be visited before another: the other is at least as far
away, and if it is not farther, it was given later. -/
def IsPreferred
    (distance : Entity → Option Float)
    (chosen other : Entity × Nat) :
    Prop :=
  ∃ value further,
    distance chosen.1 = some value ∧
      distance other.1 = some further ∧
      value ≤ further ∧
      (further ≤ value → chosen.2 < other.2)

/-- Each entity on a tour is preferred to all that are left when it is visited:
the first by the given distance, each further one by the distance from the one
before. -/
def IsGreedy :
    (Entity → Option Float) → List (Entity × Nat) → Prop
  | _, [] => True
  | distance, chosen :: tour =>
    (∀ left ∈ tour, IsPreferred distance chosen left) ∧
      IsGreedy (fun next => (chosen.1.distanceTo? next).toOption) tour

/-- Of two entities only one can be preferred. -/
theorem IsPreferred.asymm
    {distance : Entity → Option Float}
    {first second : Entity × Nat}
    (preferred : IsPreferred distance first second) :
    ¬ IsPreferred distance second first := by
  rintro ⟨farther, nearer, measuredSecond, measuredFirst, above, later⟩
  obtain ⟨value, further, measured, measuredOther, below, earlier⟩ :=
    preferred
  obtain rfl := Option.some.inj (measured.symm.trans measuredFirst)
  obtain rfl := Option.some.inj (measuredOther.symm.trans measuredSecond)
  exact (earlier above).asymm (later below)

/-- There is only one greedy tour through the same entities. -/
theorem IsGreedy.unique
    {distance : Entity → Option Float}
    {tour other : List (Entity × Nat)}
    (greedy : IsGreedy distance tour)
    (greedyOther : IsGreedy distance other)
    (same : other.Perm tour) :
    other = tour := by
  induction tour generalizing distance other with
  | nil => exact same.eq_nil
  | cons chosen tour hypothesis =>
      cases other with
      | nil => exact same.nil_eq
      | cons otherChosen other =>
          -- Two different beginnings would be preferred to each other.
          have begin : otherChosen = chosen := by
            by_contra different
            have left : otherChosen ∈ tour :=
              List.mem_of_ne_of_mem different
                (same.mem_iff.mp List.mem_cons_self)
            have otherLeft : chosen ∈ other :=
              List.mem_of_ne_of_mem (Ne.symm different)
                (same.mem_iff.mpr List.mem_cons_self)
            exact (greedy.1 otherChosen left).asymm
              (greedyOther.1 chosen otherLeft)
          subst begin
          rw [hypothesis greedy.2 greedyOther.2 same.cons_inv]

/-! ## Measurable drawings -/

/-- The distance from one entity to another, if there is one, is no NaN. -/
def Entity.Measures (source target : Entity) : Prop :=
  ∀ value, (source.distanceTo? target).toOption = some value →
    value.isNaN = false

/-- Two entities can be measured from each other. -/
def Entity.Commensurable (first second : Entity) : Prop :=
  first.Measures second ∧ second.Measures first

/-- No distance is a NaN: neither from the origin to an entity nor between two
entities. -/
structure IsMeasurable
    (origin : Point)
    (entities : List Entity) :
    Prop where
  comparable : Comparable (Entity.distanceFrom? origin) entities
  commensurable : entities.Pairwise Entity.Commensurable

/-! ## Rounds -/

/-- The entities that are left on a tour through a measurable drawing, in the
order in which they were given. -/
structure IsLeft
    (distance : Entity → Option Float)
    (left : List (Entity × Nat)) :
    Prop where
  ordered : left.Pairwise fun earlier later => earlier.2 < later.2
  reachable : Reachable distance (left.map Prod.fst)
  comparable : Comparable distance (left.map Prod.fst)
  commensurable : (left.map Prod.fst).Pairwise Entity.Commensurable

namespace IsLeft

variable
  {distance : Entity → Option Float}
  {before after : List (Entity × Nat)}
  {chosen : Entity × Nat}

/-- The first nearest entity is preferred to all others. -/
theorem isPreferred
    (isLeft : IsLeft distance (before ++ chosen :: after))
    {value : Float}
    (first :
      IsFirstNearest distance (before.map Prod.fst) chosen.1 value
        (after.map Prod.fst))
    {other : Entity × Nat}
    (member : other ∈ before ++ after) :
    IsPreferred distance chosen other := by
  have listed :
      ∀ entity ∈ before ++ chosen :: after,
        entity.1 ∈ (before ++ chosen :: after).map Prod.fst :=
    fun entity => List.mem_map_of_mem
  have chosenListed := listed chosen (by simp)
  have otherListed := listed other (by
    rw [List.mem_append, List.mem_cons]
    exact (List.mem_append.mp member).imp_right Or.inr)
  obtain ⟨further, measured⟩ := Option.isSome_iff_exists.mp
    (isLeft.reachable.measured other.1 otherListed)
  refine ⟨value, further, first.measured, measured, ?_⟩
  rcases List.mem_append.mp member with early | late
  · have beyond :=
      first.farther other.1 (List.mem_map_of_mem early) further measured
    have number :=
      isLeft.comparable chosen.1 chosenListed value first.measured
    have otherNumber :=
      isLeft.comparable other.1 otherListed further measured
    exact ⟨Number.le_of_not_le otherNumber number beyond,
      fun tied => (beyond tied).elim⟩
  · have noNearer :=
      first.noNearer other.1 (List.mem_map_of_mem late) further measured
    have later :=
      (List.pairwise_cons.mp
        (List.pairwise_append.mp isLeft.ordered).2.1).1 other late
    exact ⟨noNearer, fun _ => later⟩

/-- What is left after a visit is still in order and can be measured from where
the visit led. -/
theorem after_visit
    (isLeft : IsLeft distance (before ++ chosen :: after)) :
    IsLeft (fun next => (chosen.1.distanceTo? next).toOption)
      (before ++ after) := by
  have fewer :
      (before ++ after).Sublist (before ++ chosen :: after) :=
    (List.sublist_cons_self chosen after).append_left before
  have fewerEntities := fewer.map Prod.fst
  have entities :
      (before ++ chosen :: after).map Prod.fst =
        before.map Prod.fst ++ chosen.1 :: after.map Prod.fst :=
    List.map_append
  constructor
  case ordered => exact isLeft.ordered.sublist fewer
  case reachable =>
    have listed :
        ((before ++ chosen :: after).map Prod.fst)[
            (before.map Prod.fst).length]? =
          some chosen.1 := by
      rw [entities, getElem?_between]
    have reachable := isLeft.reachable.after_visit listed
    rwa [entities, eraseIdx_between, ← List.map_append] at reachable
  case comparable =>
    have commensurable := isLeft.commensurable
    rw [entities, List.pairwise_middle fun both => both.symm,
      List.pairwise_cons, ← List.map_append] at commensurable
    intro entity member
    exact (commensurable.1 entity member).1
  case commensurable => exact isLeft.commensurable.sublist fewerEntities

end IsLeft

/-- The rounds through a measurable drawing are a greedy tour. -/
theorem Visits.exists_greedy
    {distance : Entity → Option Float}
    {pending tour : List Entity}
    (visits : Visits distance pending tour)
    {left : List (Entity × Nat)}
    (numbers : left.map Prod.fst = pending)
    (isLeft : IsLeft distance left) :
    ∃ numbered,
      numbered.map Prod.fst = tour ∧
        numbered.Perm left ∧
        IsGreedy distance numbered := by
  -- Each round takes the first nearest of what is left, whose number then
  -- tells it from all that it ties with.
  induction visits generalizing left with
  | @ended distance pending nothing =>
      subst numbers
      have all :=
        (Visits.ended nothing).perm isLeft.reachable
      have empty : left = [] := List.map_eq_nil_iff.mp all.nil_eq.symm
      exact ⟨[], rfl, by rw [empty], trivial⟩
  | @visit distance pending tour place chosen found listed further
      hypothesis =>
      subst numbers
      obtain ⟨_, _, value, _, entities, rfl, first⟩ :=
        isFirstNearest_of_nearest isLeft.comparable found
      obtain ⟨before, _, rfl, rfl, rest⟩ :=
        List.map_eq_append_iff.mp entities
      obtain ⟨numberedChosen, after, rfl, rfl, rfl⟩ :=
        List.map_eq_cons_iff.mp rest
      obtain rfl : numberedChosen.1 = chosen := by
        rw [entities, getElem?_between] at listed
        exact Option.some.inj listed
      have others :
          (before ++ after).map Prod.fst =
            ((before ++ numberedChosen :: after).map Prod.fst).eraseIdx
              (before.map Prod.fst).length := by
        rw [entities, eraseIdx_between, List.map_append]
      obtain ⟨numbered, rfl, all, greedy⟩ :=
        hypothesis others isLeft.after_visit
      refine ⟨numberedChosen :: numbered, rfl, ?_, ?_, greedy⟩
      · exact (all.cons numberedChosen).trans List.perm_middle.symm
      · intro other member
        exact isLeft.isPreferred first (all.subset member)

/-! ## Orders by proximity -/

/-- The entities that have a starting point, each with the place at which it was
given. -/
def numberedPlaced (entities : List Entity) : List (Entity × Nat) :=
  entities.zipIdx.filter (·.1.hasStart)

theorem map_fst_numberedPlaced (entities : List Entity) :
    (numberedPlaced entities).map Prod.fst =
      entities.filter Entity.hasStart := by
  have projected :
      ((·.1.hasStart) : Entity × Nat → Bool) =
        Entity.hasStart ∘ Prod.fst :=
    rfl
  rw [numberedPlaced, projected, ← List.filter_map, List.zipIdx_map_fst]

theorem pairwise_numberedPlaced (entities : List Entity) :
    (numberedPlaced entities).Pairwise fun earlier later =>
      earlier.2 < later.2 := by
  refine List.Pairwise.filter _ ?_
  rw [← List.pairwise_map, List.zipIdx_map_snd]
  exact List.pairwise_lt_range'

theorem isLeft_numberedPlaced
    {origin : Point}
    {entities : List Entity}
    (measurable : IsMeasurable origin entities) :
    IsLeft (Entity.distanceFrom? origin) (numberedPlaced entities) := by
  have placed := map_fst_numberedPlaced entities
  constructor
  case ordered => exact pairwise_numberedPlaced entities
  case reachable =>
    rw [placed]
    exact reachable_placed origin entities
  case comparable =>
    rw [placed]
    intro entity member
    exact measurable.comparable entity (List.mem_of_mem_filter member)
  case commensurable =>
    rw [placed]
    exact measurable.commensurable.filter _

/-- A tour visits each entity that has a starting point, always the nearest one
from the origin or from the one before, and of several the one that was given
first. -/
structure IsStableGreedy
    (origin : Point)
    (entities : List Entity)
    (tour : List (Entity × Nat)) :
    Prop where
  visitsAll : tour.Perm (numberedPlaced entities)
  greedy : IsGreedy (Entity.distanceFrom? origin) tour

theorem exists_isStableGreedy
    {origin : Point}
    {entities : List Entity}
    (measurable : IsMeasurable origin entities) :
    ∃ tour,
      IsStableGreedy origin entities tour ∧
        placedTour origin entities = tour.map Prod.fst := by
  obtain ⟨tour, same, all, greedy⟩ :=
    (visits_placedTour origin entities).exists_greedy
      (map_fst_numberedPlaced entities) (isLeft_numberedPlaced measurable)
  exact ⟨tour, ⟨all, greedy⟩, same.symm⟩

theorem IsStableGreedy.unique
    {origin : Point}
    {entities : List Entity}
    {tour other : List (Entity × Nat)}
    (stable : IsStableGreedy origin entities tour)
    (stableOther : IsStableGreedy origin entities other) :
    other = tour :=
  stable.greedy.unique stableOther.greedy
    (stableOther.visitsAll.trans stable.visitsAll.symm)

/-- Where a drawing can be measured, its order by proximity is the one stable
greedy tour, followed by the entities without a starting point. -/
theorem orderByProximity_greedy
    (origin : Point)
    (entities : List Entity)
    (measurable : IsMeasurable origin entities) :
    ∃ tour,
      (∀ other, IsStableGreedy origin entities other ↔ other = tour) ∧
        orderByProximity origin entities =
          tour.map Prod.fst ++ entities.filter (!·.hasStart) := by
  obtain ⟨tour, stable, same⟩ := exists_isStableGreedy measurable
  refine ⟨tour, fun other => ⟨stable.unique, ?_⟩, ?_⟩
  · rintro rfl
    exact stable
  · rw [orderByProximity_eq_append, same]

/-- A line that starts on the horizontal axis. -/
def lineFrom (x : Float) : Entity :=
  .line { start := ⟨x, 0.0⟩, finish := ⟨x, 1.0⟩ }

/-- Lines can be measured where their starting points can. -/
theorem isMeasurable_lines
    {origin : Point}
    {starts : List Float}
    (fromOrigin : ∀ x ∈ starts, (origin.distanceTo ⟨x, 0.0⟩).isNaN = false)
    (between :
      starts.Pairwise fun x other =>
        (Point.distanceTo ⟨x, 0.0⟩ ⟨other, 0.0⟩).isNaN = false ∧
          (Point.distanceTo ⟨other, 0.0⟩ ⟨x, 0.0⟩).isNaN = false) :
    IsMeasurable origin (starts.map lineFrom) := by
  have measures :
      ∀ source target : Float,
        (Point.distanceTo ⟨source, 0.0⟩ ⟨target, 0.0⟩).isNaN = false →
          (lineFrom source).Measures (lineFrom target) := by
    intro source target number value measured
    rw [← Option.some.inj measured]
    exact number
  constructor
  case comparable =>
    intro entity member value measured
    obtain ⟨x, among, rfl⟩ := List.mem_map.mp member
    rw [← Option.some.inj measured]
    exact fromOrigin x among
  case commensurable =>
    refine List.pairwise_map.mpr (between.imp fun both => ?_)
    exact both.imp (measures _ _) (measures _ _)

/-- Distances may be equal, and they may be infinite. -/
theorem orderByProximity_greedy_lines :
    IsMeasurable Point.origin ([1e200, 1.0, -1.0].map lineFrom) ∧
      ∃ tour,
        (∀ other,
          IsStableGreedy Point.origin ([1e200, 1.0, -1.0].map lineFrom)
              other ↔
            other = tour) ∧
          orderByProximity Point.origin ([1e200, 1.0, -1.0].map lineFrom) =
            tour.map Prod.fst ++ [] := by
  have measurable :
      IsMeasurable Point.origin ([1e200, 1.0, -1.0].map lineFrom) :=
    isMeasurable_lines (by decide +kernel) (by decide +kernel)
  exact ⟨measurable, orderByProximity_greedy _ _ measurable⟩

end Toolpath
