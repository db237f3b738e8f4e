import Mathlib.Data.List.Perm.Basic
import Toolpath.Tour

/-!
# Tours visit everything

A tour ends when no pending entity is nearest.  As long as every pending entity
has a distance, one of them is nearest, whatever the distances are; and two
entities that have a starting point have a distance.  So a tour visits every
entity that has a starting point exactly once, and an order by proximity is a
permutation.
-/

namespace Toolpath

/-! ## The search for the nearest candidate -/

section Search

variable
  {Candidate Distance : Type}
  [LE Distance]
  [DecidableLE Distance]
  {distance : Candidate → Option Distance}

section Steps

variable
  {best : Option (Nat × Distance)}
  {index place : Nat}
  {candidate : Candidate}
  {candidates : List Candidate}
  {value bestValue : Distance}

theorem nearestFrom_of_none (unmeasured : distance candidate = none) :
    nearestFrom distance best index (candidate :: candidates) =
      nearestFrom distance best (index + 1) candidates := by
  simp only [nearestFrom, unmeasured]

theorem nearestFrom_of_some (measured : distance candidate = some value) :
    nearestFrom distance none index (candidate :: candidates) =
      nearestFrom distance (some (index, value)) (index + 1) candidates := by
  simp only [nearestFrom, measured]

theorem nearestFrom_of_le
    (measured : distance candidate = some value)
    (noNearer : bestValue ≤ value) :
    nearestFrom distance (some (place, bestValue)) index
        (candidate :: candidates) =
      nearestFrom distance (some (place, bestValue)) (index + 1)
        candidates := by
  simp only [nearestFrom, measured, if_pos noNearer]

theorem nearestFrom_of_not_le
    (measured : distance candidate = some value)
    (beyond : ¬ bestValue ≤ value) :
    nearestFrom distance (some (place, bestValue)) index
        (candidate :: candidates) =
      nearestFrom distance (some (index, value)) (index + 1) candidates := by
  simp only [nearestFrom, measured, if_neg beyond]

end Steps

/-- A search finds the best candidate so far or one of the further ones, which
then has a distance. -/
theorem nearestFrom_eq_some
    {best : Option (Nat × Distance)}
    {index found : Nat}
    {candidates : List Candidate}
    (finds : nearestFrom distance best index candidates = some found) :
    best.map Prod.fst = some found ∨
      ∃ place candidate, found = index + place ∧
        candidates[place]? = some candidate ∧
        (distance candidate).isSome = true := by
  -- A candidate is found at the head of the list or later, one place further
  -- on than in the rest of it.
  have here :
      ∀ {candidate : Candidate} {candidates : List Candidate} {index : Nat}
          {value : Distance},
        distance candidate = some value → some index = some found →
        ∃ place other, found = index + place ∧
          (candidate :: candidates)[place]? = some other ∧
          (distance other).isSome = true := by
    intro candidate candidates index value measure kept
    refine ⟨0, candidate, (Option.some.inj kept).symm, rfl, ?_⟩
    rw [measure, Option.isSome_some]
  have further :
      ∀ {candidate : Candidate} {candidates : List Candidate} {index : Nat},
        (∃ place other, found = index + 1 + place ∧
          candidates[place]? = some other ∧
          (distance other).isSome = true) →
        ∃ place other, found = index + place ∧
          (candidate :: candidates)[place]? = some other ∧
          (distance other).isSome = true := by
    rintro candidate candidates index ⟨place, other, rfl, listed, measured⟩
    exact ⟨place + 1, other, by omega, listed, measured⟩
  fun_induction nearestFrom distance best index candidates with
  | case1 best index => exact Or.inl finds
  | case2 best index candidate candidates measure hypothesis =>
      rcases hypothesis finds with kept | later
      · exact Or.inl kept
      · exact Or.inr (further later)
  | case3 index candidate candidates value measure hypothesis =>
      rcases hypothesis finds with kept | later
      · exact Or.inr (here measure kept)
      · exact Or.inr (further later)
  | case4 index candidate candidates value bestIndex bestValue measure
      nearer hypothesis =>
      rcases hypothesis finds with kept | later
      · exact Or.inl kept
      · exact Or.inr (further later)
  | case5 index candidate candidates value bestIndex bestValue measure
      farther hypothesis =>
      rcases hypothesis finds with kept | later
      · exact Or.inr (here measure kept)
      · exact Or.inr (further later)

/-- A search that has a best candidate keeps having one. -/
theorem isSome_nearestFrom
    (best : Nat × Distance)
    (index : Nat)
    (candidates : List Candidate) :
    (nearestFrom distance (some best) index candidates).isSome = true := by
  induction candidates generalizing best index with
  | nil => rfl
  | cons candidate candidates hypothesis =>
      cases measure : distance candidate with
      | none =>
          rw [nearestFrom_of_none measure]
          exact hypothesis best (index + 1)
      | some value =>
          by_cases noNearer : best.2 ≤ value
          · rw [nearestFrom_of_le measure noNearer]
            exact hypothesis best (index + 1)
          · rw [nearestFrom_of_not_le measure noNearer]
            exact hypothesis (index, value) (index + 1)

/-- Where the first candidate has a distance, a search finds some candidate. -/
theorem exists_nearest
    {candidate : Candidate}
    (measured : (distance candidate).isSome = true)
    (candidates : List Candidate) :
    ∃ place chosen,
      nearest distance (candidate :: candidates) = some place ∧
        (candidate :: candidates)[place]? = some chosen := by
  obtain ⟨value, measure⟩ := Option.isSome_iff_exists.mp measured
  have finds :
      (nearest distance (candidate :: candidates)).isSome = true := by
    rw [nearest, nearestFrom_of_some measure]
    exact isSome_nearestFrom (0, value) 1 candidates
  obtain ⟨place, found⟩ := Option.isSome_iff_exists.mp finds
  rcases nearestFrom_eq_some found with kept | ⟨_, chosen, rfl, listed, -⟩
  · cases kept
  · exact ⟨_, chosen, found, by rwa [Nat.zero_add]⟩

end Search

/-! ## Distances between entities -/

namespace Entity

theorem isSome_distanceFrom?
    (origin : Point)
    {entity : Entity}
    (placed : entity.hasStart = true) :
    (entity.distanceFrom? origin).isSome = true := by
  rw [hasStart] at placed
  rw [distanceFrom?]
  cases start : entity.start? with
  | ok point => rfl
  | error cause => simp [start] at placed

theorem isSome_distanceTo?
    {source target : Entity}
    (sourcePlaced : source.hasStart = true)
    (targetPlaced : target.hasStart = true) :
    (source.distanceTo? target).toOption.isSome = true := by
  rw [hasStart] at sourcePlaced targetPlaced
  cases sourceStart : source.start? with
  | error cause => simp [sourceStart] at sourcePlaced
  | ok first =>
      cases targetStart : target.start? with
      | error cause => simp [targetStart] at targetPlaced
      | ok second =>
          rw [distanceTo?_of_starts sourceStart targetStart]
          rfl

end Entity

/-! ## Tours -/

/--
The rounds of a tour, however many there are: as long as one of the pending
entities is nearest, it is taken out of its place and visited, and the next
round starts from there.

`Visits distance pending tour` says that these rounds come to an end, and that
`tour` is what they visit.
-/
inductive Visits :
    (Entity → Option Float) → List Entity → List Entity → Prop where
  /-- No pending entity is nearest. -/
  | ended
      {distance : Entity → Option Float}
      {pending : List Entity}
      (nothing : nearest distance pending = none) :
      Visits distance pending []
  | visit
      {distance : Entity → Option Float}
      {pending tour : List Entity}
      {place : Nat}
      {chosen : Entity}
      (found : nearest distance pending = some place)
      (listed : pending[place]? = some chosen)
      (further :
        Visits (fun next => (chosen.distanceTo? next).toOption)
          (pending.eraseIdx place) tour) :
      Visits distance pending (chosen :: tour)

/-- There is only one way through the rounds. -/
theorem Visits.unique
    {distance : Entity → Option Float}
    {pending tour other : List Entity}
    (visits : Visits distance pending tour)
    (visitsOther : Visits distance pending other) :
    other = tour := by
  induction visits generalizing other with
  | ended nothing =>
      cases visitsOther with
      | ended => rfl
      | visit found =>
          rw [nothing] at found
          cases found
  | visit found listed further hypothesis =>
      cases visitsOther with
      | ended nothing =>
          rw [nothing] at found
          cases found
      | visit foundOther listedOther furtherOther =>
          obtain rfl := Option.some.inj (found.symm.trans foundOther)
          obtain rfl := Option.some.inj (listed.symm.trans listedOther)
          rw [hypothesis furtherOther]

/-- Pending entities that all have a starting point and a distance. -/
structure Reachable
    (distance : Entity → Option Float)
    (pending : List Entity) :
    Prop where
  placed : ∀ entity ∈ pending, entity.hasStart = true
  measured : ∀ entity ∈ pending, (distance entity).isSome = true

namespace Reachable

variable
  {distance : Entity → Option Float}
  {pending : List Entity}

/-- As long as an entity is pending, one of them is nearest. -/
theorem exists_nearest
    (reachable : Reachable distance pending)
    (nonempty : pending ≠ []) :
    ∃ place chosen,
      nearest distance pending = some place ∧
        pending[place]? = some chosen := by
  cases pending with
  | nil => exact (nonempty rfl).elim
  | cons first others =>
      have measured := reachable.measured first List.mem_cons_self
      exact Toolpath.exists_nearest measured others

/-- After a visit the other entities can be reached from where it led. -/
theorem after_visit
    (reachable : Reachable distance pending)
    {place : Nat}
    {chosen : Entity}
    (listed : pending[place]? = some chosen) :
    Reachable (fun next => (chosen.distanceTo? next).toOption)
      (pending.eraseIdx place) := by
  have chosenPlaced : chosen.hasStart = true :=
    reachable.placed chosen (List.mem_of_getElem? listed)
  have left :
      ∀ entity ∈ pending.eraseIdx place, entity.hasStart = true := by
    intro entity member
    exact reachable.placed entity (List.mem_of_mem_eraseIdx member)
  constructor
  case placed => exact left
  case measured =>
    intro entity member
    exact Entity.isSome_distanceTo? chosenPlaced (left entity member)

/-- A tour that may visit as many entities as are pending runs through all of
its rounds. -/
theorem visits_tourFrom
    {count : Nat}
    (reachable : Reachable distance pending)
    (length : pending.length = count) :
    Visits distance pending (tourFrom distance pending count) := by
  induction count generalizing distance pending with
  | zero =>
      rw [List.length_eq_zero_iff.mp length]
      exact Visits.ended rfl
  | succ count hypothesis =>
      have nonempty : pending ≠ [] := by
        rintro rfl
        cases length
      obtain ⟨place, chosen, found, listed⟩ :=
        reachable.exists_nearest nonempty
      have inside := (List.getElem?_eq_some_iff.mp listed).1
      have shorter : (pending.eraseIdx place).length = count := by
        rw [List.length_eraseIdx_of_lt inside, length]
        rfl
      rw [tourFrom]
      simp only [found, listed]
      exact Visits.visit found listed
        (hypothesis (reachable.after_visit listed) shorter)

end Reachable

/-- The rounds visit each entity that can be reached once. -/
theorem Visits.perm
    {distance : Entity → Option Float}
    {pending tour : List Entity}
    (visits : Visits distance pending tour)
    (reachable : Reachable distance pending) :
    tour.Perm pending := by
  -- Rounds can only end where nothing is pending.
  induction visits with
  | @ended distance pending nothing =>
      have empty : pending = [] := by
        by_contra nonempty
        obtain ⟨place, chosen, found, -⟩ :=
          reachable.exists_nearest nonempty
        rw [nothing] at found
        cases found
      rw [empty]
  | @visit distance pending tour place chosen found listed further
      hypothesis =>
      have later := hypothesis (reachable.after_visit listed)
      obtain ⟨inside, rfl⟩ := List.getElem?_eq_some_iff.mp listed
      exact (later.cons _).trans (List.getElem_cons_eraseIdx_perm inside)

/-! ## Orders by proximity -/

/-- The tour through the entities that have a starting point. -/
def placedTour (origin : Point) (entities : List Entity) : List Entity :=
  tourFrom (Entity.distanceFrom? origin)
    (entities.filter Entity.hasStart)
    (entities.filter Entity.hasStart).length

theorem orderByProximity_eq_append
    (origin : Point)
    (entities : List Entity) :
    orderByProximity origin entities =
      placedTour origin entities
        ++ entities.filter (!·.hasStart) :=
  rfl

theorem reachable_placed (origin : Point) (entities : List Entity) :
    Reachable (Entity.distanceFrom? origin)
      (entities.filter Entity.hasStart) := by
  have placed :
      ∀ entity ∈ entities.filter Entity.hasStart,
        entity.hasStart = true :=
    fun entity member => List.of_mem_filter member
  constructor
  case placed => exact placed
  case measured =>
    intro entity member
    exact Entity.isSome_distanceFrom? origin (placed entity member)

theorem visits_placedTour (origin : Point) (entities : List Entity) :
    Visits (Entity.distanceFrom? origin)
      (entities.filter Entity.hasStart) (placedTour origin entities) :=
  (reachable_placed origin entities).visits_tourFrom rfl

theorem placedTour_perm (origin : Point) (entities : List Entity) :
    (placedTour origin entities).Perm
      (entities.filter Entity.hasStart) :=
  (visits_placedTour origin entities).perm
    (reachable_placed origin entities)

/-- An order by proximity loses no entity and repeats none. -/
theorem orderByProximity_perm (origin : Point) (entities : List Entity) :
    (orderByProximity origin entities).Perm entities := by
  rw [orderByProximity_eq_append]
  exact ((placedTour_perm origin entities).append_right _).trans
    (List.filter_append_perm Entity.hasStart entities)

/-- Ellipses and polylines without chains are the entities that have no
starting point. -/
theorem Entity.hasStart_eq_false_iff (entity : Entity) :
    entity.hasStart = false ↔
      (∃ shape, entity = ellipse shape) ∨
      (∃ shape, entity = polyline shape ∧ shape.chains = []) := by
  cases entity with
  | line shape => simp [hasStart, start?]
  | circle shape => simp [hasStart, start?]
  | arc shape => simp [hasStart, start?]
  | ellipse shape => simp [hasStart, start?]
  | polyline shape =>
      cases chains : shape.chains <;> simp [hasStart, start?, chains]

/--
Whatever the coordinates, the rounds of a tour come to an end, in one way only.
They visit every entity that has a starting point once; ellipses and polylines
without chains, which have none, follow in the order in which they were given.
-/
theorem orderByProximity_visits_once
    (origin : Point)
    (entities : List Entity) :
    (∃ tour,
      (∀ other,
        Visits (Entity.distanceFrom? origin)
          (entities.filter Entity.hasStart) other ↔ other = tour) ∧
      tour.Perm (entities.filter Entity.hasStart) ∧
      orderByProximity origin entities =
        tour ++ entities.filter (!·.hasStart)) ∧
    (orderByProximity origin entities).Perm entities ∧
    ∀ entity : Entity,
      (entity.hasStart = true ↔ ∃ start, entity.start? = .ok start) ∧
      (entity.hasStart = false ↔
        (∃ shape, entity = .ellipse shape) ∨
          (∃ shape, entity = .polyline shape ∧ shape.chains = [])) := by
  refine ⟨⟨placedTour origin entities, ?_, ?_, ?_⟩, ?_, ?_⟩
  · intro other
    constructor
    · intro visits
      exact (visits_placedTour origin entities).unique visits
    · rintro rfl
      exact visits_placedTour origin entities
  · exact placedTour_perm origin entities
  · exact orderByProximity_eq_append origin entities
  · exact orderByProximity_perm origin entities
  · intro entity
    refine ⟨?_, entity.hasStart_eq_false_iff⟩
    rw [Entity.hasStart]
    cases entity.start? <;> simp

end Toolpath
