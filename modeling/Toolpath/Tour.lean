import Toolpath.Entity.Start

/-!
# Greedy tours

Travel between entities is shortened by always going to the nearest entity
that is left.  Entities without a starting point have no place on the tour and
are put at its end.
-/

namespace Toolpath

/--
Continues a search for the nearest candidate after `index` candidates.

The best candidate so far is kept only while it is at most as far away as the
candidate it is compared with.  A candidate without a distance is passed over.
-/
def nearestFrom
    {Candidate Distance : Type}
    [LE Distance]
    [DecidableLE Distance]
    (distance : Candidate → Option Distance)
    (best : Option (Nat × Distance))
    (index : Nat) :
    List Candidate → Option Nat
  | [] => best.map Prod.fst
  | candidate :: candidates =>
    match distance candidate, best with
    | none, _ => nearestFrom distance best (index + 1) candidates
    | some found, none =>
      nearestFrom distance (some (index, found)) (index + 1) candidates
    | some found, some (bestIndex, bestFound) =>
      if bestFound ≤ found then
        nearestFrom distance (some (bestIndex, bestFound)) (index + 1)
          candidates
      else nearestFrom distance (some (index, found)) (index + 1) candidates

/-- The index of the nearest candidate, when any has a distance. -/
def nearest
    {Candidate Distance : Type}
    [LE Distance]
    [DecidableLE Distance]
    (distance : Candidate → Option Distance)
    (candidates : List Candidate) :
    Option Nat :=
  nearestFrom distance none 0 candidates

/-- The distance from a point to where an entity starts. -/
def Entity.distanceFrom?
    (origin : Point)
    (entity : Entity) :
    Option Float :=
  match entity.start? with
  | .ok start => some (origin.distanceTo start)
  | .error _ => none

/--
Visits the nearest pending entity again and again, each time from the one
before; `count` bounds the number of visits.
-/
def tourFrom
    (distance : Entity → Option Float)
    (pending : List Entity) :
    Nat → List Entity
  | 0 => []
  | count + 1 =>
    match nearest distance pending with
    | none => []
    | some index =>
      match pending[index]? with
      | none => []
      | some chosen =>
        chosen
          :: tourFrom (fun next => (chosen.distanceTo? next).toOption)
            (pending.eraseIdx index) count

/-- Whether an entity has a place on a tour. -/
def Entity.hasStart (entity : Entity) : Bool :=
  match entity.start? with
  | .ok _ => true
  | .error _ => false

/-- The entities in the order of a greedy tour from a point. -/
def orderByProximity
    (origin : Point)
    (entities : List Entity) :
    List Entity :=
  let placed := entities.filter Entity.hasStart
  let unplaced := entities.filter (!·.hasStart)
  tourFrom (Entity.distanceFrom? origin) placed placed.length ++ unplaced

end Toolpath
