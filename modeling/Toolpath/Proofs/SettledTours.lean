import Mathlib
import Toolpath.Proofs.GreedyTour
import Toolpath.Proofs.Reordering

/-!
# Settled tours

A drawing is settled if it lists its entities as a tour visits them: each that
has a starting point before all that are farther away from the one before it,
and those without a starting point at the end.  A tour through a settled drawing
finds the nearest entity at the head of what is left, in every round, whatever
the ties.  So it changes nothing, and a program comes out the same whether or
not the order is optimized.

Wherever a drawing can be measured, its order by proximity is settled.
-/

namespace Toolpath

/-! ## Searches that end where they began -/

section Search

variable
  {Candidate : Type}
  {distance : Candidate → Option Float}
  {candidates : List Candidate}

/-- The best candidate so far is found if none of the further ones is
nearer. -/
theorem nearestFrom_of_noNearer
    {value : Float}
    (noNearer :
      ∀ candidate ∈ candidates, ∀ further,
        distance candidate = some further → value ≤ further)
    (place index : Nat) :
    nearestFrom distance (some (place, value)) index candidates =
      some place := by
  induction candidates generalizing index with
  | nil => rfl
  | cons candidate candidates hypothesis =>
      rw [List.forall_mem_cons] at noNearer
      cases measure : distance candidate with
      | none =>
          rw [nearestFrom_of_none measure]
          exact hypothesis noNearer.2 (index + 1)
      | some further =>
          rw [nearestFrom_of_le measure (noNearer.1 further measure)]
          exact hypothesis noNearer.2 (index + 1)

theorem IsFirstNearest.nearest_eq_zero
    {chosen : Candidate}
    {value : Float}
    (first : IsFirstNearest distance [] chosen value candidates) :
    nearest distance (chosen :: candidates) = some 0 := by
  rw [nearest, nearestFrom_of_some first.measured]
  exact nearestFrom_of_noNearer first.noNearer 0 1

end Search

/-! ## Lists that are their own tours -/

/-- The first entity is at most as far away as all others, and so is, by the
distance from the one before, each of the further entities. -/
def IsNearestFirst :
    (Entity → Option Float) → List Entity → Prop
  | _, [] => True
  | distance, chosen :: others =>
    (∃ value, IsFirstNearest distance [] chosen value others) ∧
      IsNearestFirst (fun next => (chosen.distanceTo? next).toOption) others

/-- Every round visits the head of what is left. -/
theorem IsNearestFirst.visits
    {distance : Entity → Option Float}
    {entities : List Entity}
    (nearestFirst : IsNearestFirst distance entities) :
    Visits distance entities entities := by
  induction entities generalizing distance with
  | nil => exact Visits.ended rfl
  | cons chosen others hypothesis =>
      rcases nearestFirst with ⟨⟨value, first⟩, further⟩
      apply Visits.visit first.nearest_eq_zero
      · exact List.getElem?_cons_zero
      · exact hypothesis further

theorem Reachable.of_perm
    {distance : Entity → Option Float}
    {pending other : List Entity}
    (reachable : Reachable distance pending)
    (same : other.Perm pending) :
    Reachable distance other := by
  constructor
  case placed =>
    intro entity member
    exact reachable.placed entity (same.subset member)
  case measured =>
    intro entity member
    exact reachable.measured entity (same.subset member)

/-- A greedy tour is listed as it is visited, once the numbers that broke its
ties are left out. -/
theorem IsGreedy.isNearestFirst
    {distance : Entity → Option Float}
    {tour : List (Entity × Nat)}
    (greedy : IsGreedy distance tour)
    (reachable : Reachable distance (tour.map Prod.fst)) :
    IsNearestFirst distance (tour.map Prod.fst) := by
  induction tour generalizing distance with
  | nil => trivial
  | cons chosen tour hypothesis =>
      rcases greedy with ⟨preferred, further⟩
      rw [List.map_cons] at reachable ⊢
      constructor
      · have measured := reachable.measured chosen.1 List.mem_cons_self
        rcases Option.isSome_iff_exists.mp measured with ⟨value, measure⟩
        refine ⟨value, measure, ?_, ?_⟩
        · intro other member
          cases member
        · intro other member beyond measureOther
          rcases List.mem_map.mp member with ⟨left, listed, isLeft⟩
          subst isLeft
          rcases preferred left listed with
            ⟨near, far, measureNear, measureFar, below, -⟩
          have sameNear := Option.some.inj (measure.symm.trans measureNear)
          have sameFar :=
            Option.some.inj (measureOther.symm.trans measureFar)
          rw [sameNear, sameFar]
          exact below
      · have listed :
            (chosen.1 :: tour.map Prod.fst)[0]? = some chosen.1 :=
          List.getElem?_cons_zero
        exact hypothesis further (reachable.after_visit listed)

/-! ## Settled drawings -/

/-- A drawing that lists its entities as a tour from the origin visits them. -/
structure IsSettled
    (origin : Point)
    (entities : List Entity) :
    Prop where
  nearestFirst :
    IsNearestFirst (Entity.distanceFrom? origin)
      (entities.filter Entity.hasStart)
  unplacedLast :
    entities.filter Entity.hasStart ++ entities.filter (!·.hasStart) =
      entities

/-- Nothing has to be moved in a settled drawing. -/
theorem IsSettled.orderByProximity_eq
    {origin : Point}
    {entities : List Entity}
    (settled : IsSettled origin entities) :
    orderByProximity origin entities = entities := by
  have unmoved :
      placedTour origin entities = entities.filter Entity.hasStart :=
    settled.nearestFirst.visits.unique (visits_placedTour origin entities)
  rw [orderByProximity_eq_append, unmoved, settled.unplacedLast]

section Parts

variable (origin : Point) (entities : List Entity)

theorem hasStart_of_mem_placedTour :
    ∀ entity ∈ placedTour origin entities, entity.hasStart = true := by
  intro entity member
  exact List.of_mem_filter
    ((placedTour_perm origin entities).subset member)

theorem filter_hasStart_orderByProximity :
    (orderByProximity origin entities).filter Entity.hasStart =
      placedTour origin entities := by
  rw [orderByProximity_eq_append, List.filter_append,
    List.filter_eq_self.mpr (hasStart_of_mem_placedTour origin entities),
    List.filter_filter]
  simp

theorem filter_not_hasStart_orderByProximity :
    (orderByProximity origin entities).filter (!·.hasStart) =
      entities.filter (!·.hasStart) := by
  have none :
      (placedTour origin entities).filter (!·.hasStart) = [] := by
    rw [List.filter_eq_nil_iff]
    intro entity member
    simp [hasStart_of_mem_placedTour origin entities entity member]
  rw [orderByProximity_eq_append, List.filter_append, none,
    List.filter_filter]
  simp

end Parts

/-- One order by proximity is enough. -/
theorem isSettled_orderByProximity
    {origin : Point}
    {entities : List Entity}
    (measurable : IsMeasurable origin entities) :
    IsSettled origin (orderByProximity origin entities) := by
  constructor
  case nearestFirst =>
    rcases exists_isStableGreedy measurable with ⟨tour, stable, same⟩
    have reachable :=
      (reachable_placed origin entities).of_perm
        (placedTour_perm origin entities)
    rw [filter_hasStart_orderByProximity, same]
    rw [same] at reachable
    exact stable.greedy.isNearestFirst reachable
  case unplacedLast =>
    rw [filter_hasStart_orderByProximity,
      filter_not_hasStart_orderByProximity]
    exact (orderByProximity_eq_append origin entities).symm

/-- Where a drawing can be measured, its order by proximity leaves it as it is
exactly if it is settled. -/
theorem orderByProximity_eq_self_iff
    {origin : Point}
    {entities : List Entity}
    (measurable : IsMeasurable origin entities) :
    orderByProximity origin entities = entities ↔
      IsSettled origin entities := by
  constructor
  · intro unmoved
    have settled := isSettled_orderByProximity measurable
    rw [unmoved] at settled
    exact settled
  · exact IsSettled.orderByProximity_eq

/-! ## Programs of settled drawings -/

/-- Carrying out entities asks the settings for the machine and for what may be
left out, and for nothing else. -/
theorem emitFrom_congr
    {settings other : Settings}
    (machine : other.machine = settings.machine)
    (skips :
      other.output.skipUnsupported = settings.output.skipUnsupported)
    (tool : Tool)
    (index : Nat)
    (entities : List Entity) :
    emitFrom other tool index entities =
      emitFrom settings tool index entities := by
  induction entities generalizing tool index with
  | nil => rfl
  | cons entity entities hypothesis =>
      simp only [emitFrom, machine, skips, hypothesis]

/-- The order of a drawing that stays as it is need not be optimized. -/
theorem ValidSettings.compile_optimizing_eq
    (valid : ValidSettings)
    {entities : List Entity}
    (unmoved :
      orderByProximity valid.settings.tourOrigin entities = entities) :
    (valid.optimizing true).compile entities =
      (valid.optimizing false).compile entities := by
  have arranged :
      (valid.optimizing true).settings.arrange entities =
        (valid.optimizing false).settings.arrange entities := by
    rw [valid.arrange_optimizing_true, valid.arrange_optimizing_false,
      unmoved]
  have carriedOut :=
    @emitFrom_congr (valid.optimizing false).settings
      (valid.optimizing true).settings rfl rfl
  simp only [compile, arranged, carriedOut]
  rfl

/--
Ordering twice is ordering once, in every drawing that can be measured.

The drawings that an order by proximity does not change are the settled ones.
For a drawing that has been ordered from where tours begin under some settings,
it makes no difference to the program, or to the error, whether these settings
ask for an optimized order.
-/
theorem orderByProximity_idempotent
    (origin : Point)
    (entities : List Entity)
    (measurable : IsMeasurable origin entities) :
    orderByProximity origin (orderByProximity origin entities) =
        orderByProximity origin entities ∧
      (orderByProximity origin entities = entities ↔
        IsSettled origin entities) ∧
      ∀ valid : ValidSettings,
        valid.settings.tourOrigin = origin →
          (valid.optimizing true).compile
              (orderByProximity origin entities) =
            (valid.optimizing false).compile
              (orderByProximity origin entities) := by
  have unmoved :=
    (isSettled_orderByProximity measurable).orderByProximity_eq
  refine ⟨unmoved, orderByProximity_eq_self_iff measurable, ?_⟩
  intro valid fromHome
  subst fromHome
  exact valid.compile_optimizing_eq unmoved

/-- Two of these lines are equally far from home, and one of them is far from
the other. -/
theorem orderByProximity_idempotent_lines :
    IsMeasurable Sample.settings.settings.tourOrigin
        ([5.0, 2.0, 0.0].map lineFrom) ∧
      orderByProximity Sample.settings.settings.tourOrigin
          (orderByProximity Sample.settings.settings.tourOrigin
            ([5.0, 2.0, 0.0].map lineFrom)) =
        orderByProximity Sample.settings.settings.tourOrigin
          ([5.0, 2.0, 0.0].map lineFrom) ∧
      (Sample.settings.optimizing true).compile
          (orderByProximity Sample.settings.settings.tourOrigin
            ([5.0, 2.0, 0.0].map lineFrom)) =
        (Sample.settings.optimizing false).compile
          (orderByProximity Sample.settings.settings.tourOrigin
            ([5.0, 2.0, 0.0].map lineFrom)) := by
  have measurable :
      IsMeasurable Sample.settings.settings.tourOrigin
        ([5.0, 2.0, 0.0].map lineFrom) :=
    isMeasurable_lines (by decide +kernel) (by decide +kernel)
  have settles := orderByProximity_idempotent _ _ measurable
  exact ⟨measurable, settles.1, settles.2.2 Sample.settings rfl⟩

end Toolpath
