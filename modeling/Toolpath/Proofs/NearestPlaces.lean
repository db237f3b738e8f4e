import Mathlib
import Toolpath.Proofs.NearestCandidate

/-!
# The place that a search finds

Some candidates may have no distance, distances may be equal, and they may be
NaN.  The last NaN decides where the search counts from: what stands before it
has been forgotten, and the NaN itself gives way to whatever has a distance
behind it.  From there on the first of the least distances is found.

The distances at all places thus determine the place that is found, and a search
finds none exactly if there is no distance at all.
-/

namespace Toolpath

/-! ## Distances at places -/

section Places

variable
  {Candidate : Type}
  {distance : Candidate → Option Float}

/-- The distance of the candidate at a place, if there is one and it has any. -/
def distanceAt
    (distance : Candidate → Option Float)
    (candidates : List Candidate)
    (place : Nat) :
    Option Float :=
  candidates[place]?.bind distance

theorem exists_mem_of_distanceAt
    {candidates : List Candidate}
    {place : Nat}
    {value : Float}
    (measured : distanceAt distance candidates place = some value) :
    ∃ candidate ∈ candidates, distance candidate = some value := by
  obtain ⟨candidate, listed, measured⟩ := Option.bind_eq_some_iff.mp measured
  exact ⟨candidate, List.mem_of_getElem? listed, measured⟩

/-- What is put in front of a list shifts the places. -/
theorem distanceAt_append_add
    (front back : List Candidate)
    (place : Nat) :
    distanceAt distance (front ++ back) (front.length + place) =
      distanceAt distance back place := by
  rw [distanceAt, List.getElem?_append_right (Nat.le_add_right _ _),
    Nat.add_sub_cancel_left, distanceAt]

variable
  {before after : List Candidate}
  {chosen : Candidate}

theorem distanceAt_between :
    distanceAt distance (before ++ chosen :: after) before.length =
      distance chosen := by
  rw [distanceAt, getElem?_between, Option.bind_some]

/-- A place behind the chosen candidate belongs to one of those after it. -/
theorem exists_mem_after_of_distanceAt
    {place : Nat}
    {value : Float}
    (later : before.length < place)
    (measured :
      distanceAt distance (before ++ chosen :: after) place = some value) :
    ∃ other ∈ after, distance other = some value := by
  obtain ⟨offset, rfl⟩ := Nat.exists_eq_add_of_lt later
  rw [Nat.add_assoc, distanceAt_append_add, distanceAt,
    List.getElem?_cons_succ] at measured
  exact exists_mem_of_distanceAt measured

/-- A distance belongs to a candidate before the chosen one, to this one or to
one after it. -/
theorem distanceAt_between_cases
    {place : Nat}
    {value : Float}
    (measured :
      distanceAt distance (before ++ chosen :: after) place = some value) :
    (place < before.length ∧
      ∃ other ∈ before, distance other = some value) ∨
    (place = before.length ∧ distance chosen = some value) ∨
    (before.length < place ∧
      ∃ other ∈ after, distance other = some value) := by
  rcases lt_trichotomy place before.length with earlier | rfl | later
  · rw [distanceAt, List.getElem?_append_left earlier] at measured
    exact .inl ⟨earlier, exists_mem_of_distanceAt measured⟩
  · rw [distanceAt_between] at measured
    exact .inr (.inl ⟨rfl, measured⟩)
  · exact .inr
      (.inr ⟨later, exists_mem_after_of_distanceAt later measured⟩)

end Places

/-! ## What the distances determine -/

/-- From the start on, no distance is less than the one at a place, and none
before this place is equal to it. -/
structure IsFirstLeast
    (distances : Nat → Option Float)
    (start place : Nat)
    (value : Float) :
    Prop where
  start_le : start ≤ place
  measured : distances place = some value
  least : ∀ other further, start ≤ other →
    distances other = some further → value ≤ further
  first : ∀ other further, start ≤ other →
    distances other = some further → further ≤ value → place ≤ other

/-- The distance at a place is a NaN, and no distance after it is one. -/
structure IsLastNaN
    (distances : Nat → Option Float)
    (place : Nat) :
    Prop where
  undefined : ∃ value, distances place = some value ∧ value.isNaN = true
  numbers : ∀ other further, place < other →
    distances other = some further → further.isNaN = false

/-- The place that a search finds. -/
inductive IsFoundPlace (distances : Nat → Option Float) : Nat → Prop where
  /-- Without NaN, it is the first of the least distances. -/
  | leastOfAll
      {place : Nat}
      {value : Float}
      (numbers :
        ∀ other further, distances other = some further →
          further.isNaN = false)
      (first : IsFirstLeast distances 0 place value) :
      IsFoundPlace distances place
  /-- Behind the last NaN, it is the first of the least distances there. -/
  | leastBehind
      {disturbing place : Nat}
      {value : Float}
      (last : IsLastNaN distances disturbing)
      (first : IsFirstLeast distances (disturbing + 1) place value) :
      IsFoundPlace distances place
  /-- With no distance behind the last NaN, it is the place of the NaN. -/
  | nothingBehind
      {disturbing : Nat}
      (last : IsLastNaN distances disturbing)
      (nothing : ∀ other, disturbing < other → distances other = none) :
      IsFoundPlace distances disturbing

section Determined

variable
  {distances : Nat → Option Float}
  {place other : Nat}

theorem IsFirstLeast.unique
    {start : Nat}
    {value further : Float}
    (first : IsFirstLeast distances start place value)
    (firstOther : IsFirstLeast distances start other further) :
    other = place := by
  have below := first.least other further firstOther.start_le
    firstOther.measured
  have above := firstOther.least place value first.start_le first.measured
  exact le_antisymm
    (firstOther.first place value first.start_le first.measured below)
    (first.first other further firstOther.start_le firstOther.measured above)

theorem IsLastNaN.not_before
    (last : IsLastNaN distances place)
    (lastOther : IsLastNaN distances other) :
    ¬ place < other := by
  intro later
  obtain ⟨value, measured, undefined⟩ := lastOther.undefined
  have number := last.numbers other value later measured
  rw [undefined] at number
  cases number

theorem IsLastNaN.unique
    (last : IsLastNaN distances place)
    (lastOther : IsLastNaN distances other) :
    other = place :=
  le_antisymm (not_lt.mp (last.not_before lastOther))
    (not_lt.mp (lastOther.not_before last))

/-- Where a NaN is last, not all distances are numbers. -/
theorem IsLastNaN.not_numbers
    (last : IsLastNaN distances place)
    (numbers :
      ∀ other further, distances other = some further →
        further.isNaN = false) :
    False := by
  obtain ⟨value, measured, undefined⟩ := last.undefined
  have number := numbers place value measured
  rw [undefined] at number
  cases number

theorem IsFirstLeast.not_nothing
    {start : Nat}
    {value : Float}
    (first : IsFirstLeast distances (start + 1) place value)
    (nothing : ∀ other, start < other → distances other = none) :
    False := by
  have absent := nothing place first.start_le
  rw [first.measured] at absent
  cases absent

/-- The distances leave no choice. -/
theorem IsFoundPlace.unique
    (found : IsFoundPlace distances place)
    (foundOther : IsFoundPlace distances other) :
    other = place := by
  cases found with
  | leastOfAll numbers first =>
      cases foundOther with
      | leastOfAll _ firstOther => exact first.unique firstOther
      | leastBehind last _ => exact (last.not_numbers numbers).elim
      | nothingBehind last _ => exact (last.not_numbers numbers).elim
  | leastBehind last first =>
      cases foundOther with
      | leastOfAll numbers _ => exact (last.not_numbers numbers).elim
      | leastBehind lastOther firstOther =>
          obtain rfl := last.unique lastOther
          exact first.unique firstOther
      | nothingBehind lastOther nothing =>
          obtain rfl := last.unique lastOther
          exact (first.not_nothing nothing).elim
  | nothingBehind last nothing =>
      cases foundOther with
      | leastOfAll numbers _ => exact (last.not_numbers numbers).elim
      | leastBehind lastOther firstOther =>
          obtain rfl := last.unique lastOther
          exact (firstOther.not_nothing nothing).elim
      | nothingBehind lastOther _ => exact last.unique lastOther

theorem IsFoundPlace.exists_measured (found : IsFoundPlace distances place) :
    ∃ value, distances place = some value := by
  cases found with
  | leastOfAll _ first => exact ⟨_, first.measured⟩
  | leastBehind _ first => exact ⟨_, first.measured⟩
  | nothingBehind last _ =>
      obtain ⟨value, measured, -⟩ := last.undefined
      exact ⟨value, measured⟩

end Determined

/-! ## Searches -/

variable
  {Candidate : Type}
  {distance : Candidate → Option Float}

/-- The first nearest candidate has the first of the least distances, wherever
the candidates stand. -/
theorem IsFirstNearest.isFirstLeast
    (skipped : List Candidate)
    {before after : List Candidate}
    {chosen : Candidate}
    {value : Float}
    (first : IsFirstNearest distance before chosen value after)
    (comparable : Comparable distance (before ++ chosen :: after)) :
    IsFirstLeast
      (distanceAt distance (skipped ++ (before ++ chosen :: after)))
      skipped.length (skipped.length + before.length) value := by
  have number : value.isNaN = false :=
    comparable chosen (by simp) value first.measured
  constructor
  case start_le => exact Nat.le_add_right _ _
  case measured =>
    rw [distanceAt_append_add, distanceAt_between]
    exact first.measured
  case least =>
    intro other further started measured
    obtain ⟨offset, rfl⟩ := Nat.exists_eq_add_of_le started
    rw [distanceAt_append_add] at measured
    rcases distanceAt_between_cases measured with
      ⟨-, entity, among, measured⟩ | ⟨-, same⟩ | ⟨-, entity, among, measured⟩
    · have otherNumber :=
        comparable entity (List.mem_append_left _ among) further measured
      exact Number.le_of_not_le otherNumber number
        (first.farther entity among further measured)
    · obtain rfl := Option.some.inj (first.measured.symm.trans same)
      by_contra beyond
      exact beyond (Number.le_of_not_le number number beyond)
    · exact first.noNearer entity among further measured
  case first =>
    intro other further started measured below
    obtain ⟨offset, rfl⟩ := Nat.exists_eq_add_of_le started
    rw [distanceAt_append_add] at measured
    rcases distanceAt_between_cases measured with
      ⟨-, entity, among, measured⟩ | ⟨rfl, -⟩ | ⟨later, -⟩
    · exact (first.farther entity among further measured below).elim
    · exact le_rfl
    · omega

/-- Unless no distance is a NaN, one of the candidates is the last whose
distance is. -/
theorem comparable_or_exists_last
    (distance : Candidate → Option Float)
    (candidates : List Candidate) :
    Comparable distance candidates ∨
      ∃ front disturbing back value,
        candidates = front ++ disturbing :: back ∧
          distance disturbing = some value ∧
          value.isNaN = true ∧
          Comparable distance back := by
  induction candidates with
  | nil =>
      refine .inl fun candidate member => ?_
      cases member
  | cons candidate candidates hypothesis =>
      rcases hypothesis with
        comparable | ⟨front, disturbing, back, value, rfl, disturbed⟩
      · by_cases undefined :
          ∃ value, distance candidate = some value ∧ value.isNaN = true
        · obtain ⟨value, measured, undefined⟩ := undefined
          exact .inr ⟨[], candidate, candidates, value, rfl, measured,
            undefined, comparable⟩
        · refine .inl fun other member value measured => ?_
          rcases List.mem_cons.mp member with rfl | later
          · by_contra notNumber
            exact undefined
              ⟨value, measured, (Bool.not_eq_false _).mp notNumber⟩
          · exact comparable other later value measured
      · exact .inr
          ⟨candidate :: front, disturbing, back, value, rfl, disturbed⟩

/-- A NaN is last if all candidates behind it have numbers. -/
theorem isLastNaN_between
    {front back : List Candidate}
    {disturbing : Candidate}
    {value : Float}
    (measured : distance disturbing = some value)
    (undefined : value.isNaN = true)
    (comparable : Comparable distance back) :
    IsLastNaN (distanceAt distance (front ++ disturbing :: back))
      front.length := by
  constructor
  case undefined =>
    exact ⟨value, by rw [distanceAt_between, measured], undefined⟩
  case numbers =>
    intro other further later measuredOther
    obtain ⟨entity, among, measuredOther⟩ :=
      exists_mem_after_of_distanceAt later measuredOther
    exact comparable entity among further measuredOther

/-- A search that meets a candidate with a distance finds one. -/
theorem isSome_nearest
    {candidates : List Candidate}
    {candidate : Candidate}
    {value : Float}
    (member : candidate ∈ candidates)
    (measured : distance candidate = some value) :
    (nearest distance candidates).isSome = true := by
  obtain ⟨front, back, rfl⟩ := List.append_of_mem member
  obtain ⟨best, passed⟩ :=
    exists_nearestFrom_append distance none 0 front
  rw [nearest, passed]
  rcases best with - | ⟨place, bestValue⟩
  · rw [nearestFrom_of_some measured]
    exact isSome_nearestFrom _ _ back
  by_cases noNearer : bestValue ≤ value
  · rw [nearestFrom_of_le measured noNearer]
    exact isSome_nearestFrom _ _ back
  · rw [nearestFrom_of_not_le measured noNearer]
    exact isSome_nearestFrom _ _ back

/-- A search finds nothing exactly if no candidate has a distance. -/
theorem nearest_eq_none_iff (candidates : List Candidate) :
    nearest distance candidates = none ↔
      ∀ candidate ∈ candidates, distance candidate = none := by
  constructor
  · intro nothing candidate member
    by_contra some
    obtain ⟨value, measured⟩ := Option.ne_none_iff_exists'.mp some
    have finds := isSome_nearest member measured
    rw [nothing] at finds
    cases finds
  · intro unmeasured
    by_contra some
    obtain ⟨place, found⟩ := Option.ne_none_iff_exists'.mp some
    rcases nearestFrom_eq_some found with
      kept | ⟨_, candidate, -, listed, measured⟩
    · cases kept
    · rw [unmeasured candidate (List.mem_of_getElem? listed)] at measured
      cases measured

/-- Without NaN, the first of the least distances is found. -/
theorem isFoundPlace_of_comparable
    {candidates : List Candidate}
    {place : Nat}
    (comparable : Comparable distance candidates)
    (found : nearest distance candidates = some place) :
    IsFoundPlace (distanceAt distance candidates) place := by
  obtain ⟨before, chosen, value, after, rfl, rfl, first⟩ :=
    isFirstNearest_of_nearest comparable found
  have least := first.isFirstLeast [] comparable
  rw [List.nil_append, List.length_nil, Nat.zero_add] at least
  refine .leastOfAll (fun other further measured => ?_) least
  obtain ⟨candidate, member, measured⟩ := exists_mem_of_distanceAt measured
  exact comparable candidate member further measured

section Behind

variable
  {front back : List Candidate}
  {disturbing : Candidate}

theorem distanceAt_eq_none_of_nearest
    (nothing : nearest distance back = none)
    {place : Nat}
    (later : front.length < place) :
    distanceAt distance (front ++ disturbing :: back) place = none := by
  by_contra some
  obtain ⟨further, measured⟩ := Option.ne_none_iff_exists'.mp some
  obtain ⟨candidate, among, measured⟩ :=
    exists_mem_after_of_distanceAt later measured
  rw [(nearest_eq_none_iff back).mp nothing candidate among] at measured
  cases measured

/-- With a NaN, what is found stands behind the last one or is the last one
itself. -/
theorem isFoundPlace_of_last
    {value : Float}
    (measured : distance disturbing = some value)
    (undefined : value.isNaN = true)
    (comparable : Comparable distance back)
    {place : Nat}
    (found : nearest distance (front ++ disturbing :: back) = some place) :
    IsFoundPlace (distanceAt distance (front ++ disturbing :: back)) place := by
  have last :
      IsLastNaN (distanceAt distance (front ++ disturbing :: back))
        front.length :=
    isLastNaN_between measured undefined comparable
  rw [nearest_append_of_isNaN measured undefined] at found
  cases behind : nearest distance back with
  | none =>
      rw [behind, Option.elim_none] at found
      obtain rfl := Option.some.inj found
      exact .nothingBehind last fun other later =>
        distanceAt_eq_none_of_nearest behind later
  | some offset =>
      rw [behind, Option.elim_some] at found
      obtain rfl := Option.some.inj found
      obtain ⟨before, chosen, value, after, rfl, rfl, first⟩ :=
        isFirstNearest_of_nearest comparable behind
      have least := first.isFirstLeast (front ++ [disturbing]) comparable
      rw [List.append_assoc, List.singleton_append, List.length_append,
        List.length_singleton] at least
      exact .leastBehind last least

end Behind

/-- What a search answers is the place that the distances determine. -/
theorem isFoundPlace_of_nearest
    {candidates : List Candidate}
    {place : Nat}
    (found : nearest distance candidates = some place) :
    IsFoundPlace (distanceAt distance candidates) place := by
  rcases comparable_or_exists_last distance candidates with
    comparable | ⟨front, disturbing, back, value, rfl, measured, undefined,
      comparable⟩
  · exact isFoundPlace_of_comparable comparable found
  · exact isFoundPlace_of_last measured undefined comparable found

/--
Whatever the distances are, a search finds nothing exactly if no candidate has
any.  Otherwise it finds a candidate that has one: the first of the least
distances behind the last NaN, the NaN itself if there are none, and the first
of the least distances of all if there is no NaN.
-/
theorem nearest_determined
    (distance : Candidate → Option Float)
    (candidates : List Candidate) :
    (nearest distance candidates = none ↔
      ∀ candidate ∈ candidates, distance candidate = none) ∧
    (∀ place,
      nearest distance candidates = some place ↔
        IsFoundPlace (distanceAt distance candidates) place) ∧
    ∀ place, nearest distance candidates = some place →
      ∃ candidate value,
        candidates[place]? = some candidate ∧
          distance candidate = some value := by
  refine ⟨nearest_eq_none_iff candidates, fun place => ?_,
    fun place found => ?_⟩
  · constructor
    · exact isFoundPlace_of_nearest
    · intro found
      obtain ⟨value, measured⟩ := found.exists_measured
      obtain ⟨candidate, member, measured⟩ :=
        exists_mem_of_distanceAt measured
      obtain ⟨other, answered⟩ :=
        Option.isSome_iff_exists.mp (isSome_nearest member measured)
      rw [answered, found.unique (isFoundPlace_of_nearest answered)]
  · obtain ⟨value, measured⟩ := (isFoundPlace_of_nearest found).exists_measured
    obtain ⟨candidate, listed, measured⟩ :=
      Option.bind_eq_some_iff.mp measured
    exact ⟨candidate, value, listed, measured⟩

-- The least distance of all stands before a NaN, and so it is not found.
example :
    nearest id
        [some 1.0, some (0.0 / 0.0), some 3.0, none, some 2.0, some 2.0] =
      some 4 := by
  decide +kernel

end Toolpath
