import Mathlib
import Toolpath.Proofs.DoubleOrder
import Toolpath.Proofs.Tour

/-!
# What a search for the nearest candidate finds

Without NaN among the distances, a search finds the first of the candidates
that no other is nearer than.  A NaN makes a search forget everything before:
neither does the best so far compare with it, nor it with the candidates after
it, one of which is found whenever any of them has a distance.
-/

namespace Toolpath

variable
  {Candidate : Type}
  {distance : Candidate → Option Float}

/-! ## Between two parts of a list -/

section Between

variable {before after : List Candidate} {chosen : Candidate}

theorem getElem?_between :
    (before ++ chosen :: after)[before.length]? = some chosen := by
  rw [List.getElem?_append_right le_rfl, Nat.sub_self,
    List.getElem?_cons_zero]

theorem eraseIdx_between :
    (before ++ chosen :: after).eraseIdx before.length = before ++ after := by
  rw [List.eraseIdx_append_of_length_le le_rfl, Nat.sub_self,
    List.eraseIdx_cons_zero]

end Between

/-! ## The first of the nearest candidates -/

/-- No candidate's distance is a NaN. -/
def Comparable
    (distance : Candidate → Option Float)
    (candidates : List Candidate) :
    Prop :=
  ∀ candidate ∈ candidates, ∀ value,
    distance candidate = some value → value.isNaN = false

/-- Between two parts of a list of candidates stands the nearest one, the first
if there are several. -/
structure IsFirstNearest
    (distance : Candidate → Option Float)
    (before : List Candidate)
    (chosen : Candidate)
    (value : Float)
    (after : List Candidate) :
    Prop where
  measured : distance chosen = some value
  farther : ∀ other ∈ before, ∀ further,
    distance other = some further → ¬ further ≤ value
  noNearer : ∀ other ∈ after, ∀ further,
    distance other = some further → value ≤ further

namespace IsFirstNearest

variable
  {before after : List Candidate}
  {chosen candidate : Candidate}
  {value nearer : Float}

/-- A further candidate that is no nearer changes nothing. -/
theorem keep
    (first : IsFirstNearest distance before chosen value after)
    (last : ∀ further, distance candidate = some further → value ≤ further) :
    IsFirstNearest distance before chosen value (after ++ [candidate]) := by
  constructor
  case measured => exact first.measured
  case farther => exact first.farther
  case noNearer =>
    intro other member
    rcases List.mem_append.mp member with among | new
    · exact first.noNearer other among
    · rw [List.mem_singleton.mp new]
      exact last

/-- A further candidate takes the place of a first nearest one that is not as
near. -/
theorem replace
    (first : IsFirstNearest distance before chosen value after)
    (comparable : Comparable distance (before ++ chosen :: after))
    (measured : distance candidate = some nearer)
    (beyond : ¬ value ≤ nearer) :
    IsFirstNearest distance (before ++ chosen :: after) candidate nearer
      [] := by
  have number : value.isNaN = false :=
    comparable chosen (List.mem_append_right before List.mem_cons_self) value
      first.measured
  constructor
  case measured => exact measured
  case noNearer =>
    intro other member
    cases member
  case farther =>
    -- Whatever is at least as far away as the replaced candidate is beyond
    -- the new one as well.
    have farther : ∀ further : Float, value ≤ further → ¬ further ≤ nearer :=
      fun further above below => beyond (Number.le_trans above below)
    intro other member further measuredOther
    rcases List.mem_append.mp member with among | among
    · have otherNumber := comparable other member further measuredOther
      have above :=
        first.farther other among further measuredOther
      exact farther further
        (Number.le_of_not_le otherNumber number above)
    · rcases List.mem_cons.mp among with rfl | later
      · obtain rfl :=
          Option.some.inj (first.measured.symm.trans measuredOther)
        exact beyond
      · exact farther further
          (first.noNearer other later further measuredOther)

end IsFirstNearest

/-! ## What a search knows -/

/-- The best candidate so far is the first of the nearest among those that have
been scanned, and there is none while none of them has a distance. -/
inductive Scanned
    (distance : Candidate → Option Float) :
    List Candidate → Option (Nat × Float) → Prop where
  | nothing
      {scanned : List Candidate}
      (unmeasured : ∀ candidate ∈ scanned, distance candidate = none) :
      Scanned distance scanned none
  | nearest
      {before after : List Candidate}
      {chosen : Candidate}
      {value : Float}
      (first : IsFirstNearest distance before chosen value after) :
      Scanned distance (before ++ chosen :: after)
        (some (before.length, value))

namespace Scanned

variable
  {scanned : List Candidate}
  {candidate : Candidate}
  {best : Option (Nat × Float)}
  {value bestValue : Float}
  {place : Nat}

/-- A candidate without a distance is passed over. -/
theorem pass
    (known : Scanned distance scanned best)
    (unmeasured : distance candidate = none) :
    Scanned distance (scanned ++ [candidate]) best := by
  cases known with
  | nothing earlier =>
      refine Scanned.nothing fun other member => ?_
      rcases List.mem_append.mp member with among | new
      · exact earlier other among
      · rw [List.mem_singleton.mp new]
        exact unmeasured
  | nearest first =>
      rw [List.append_assoc]
      refine Scanned.nearest (first.keep fun further measured => ?_)
      rw [unmeasured] at measured
      cases measured

/-- The first candidate that has a distance is the best so far. -/
theorem begin
    (known : Scanned distance scanned none)
    (measured : distance candidate = some value) :
    Scanned distance (scanned ++ [candidate])
      (some (scanned.length, value)) := by
  cases known with
  | nothing unmeasured =>
      refine Scanned.nearest ⟨measured, ?_, ?_⟩
      · intro other member further measuredOther
        rw [unmeasured other member] at measuredOther
        cases measuredOther
      · intro other member
        cases member

/-- The best candidate so far is kept while it is no farther away. -/
theorem keep
    (known : Scanned distance scanned (some (place, bestValue)))
    (measured : distance candidate = some value)
    (noNearer : bestValue ≤ value) :
    Scanned distance (scanned ++ [candidate])
      (some (place, bestValue)) := by
  cases known with
  | nearest first =>
      rw [List.append_assoc]
      refine Scanned.nearest (first.keep fun further measuredOther => ?_)
      rw [← Option.some.inj (measured.symm.trans measuredOther)]
      exact noNearer

/-- A nearer candidate becomes the best so far. -/
theorem replace
    (known : Scanned distance scanned (some (place, bestValue)))
    (comparable : Comparable distance scanned)
    (measured : distance candidate = some value)
    (nearer : ¬ bestValue ≤ value) :
    Scanned distance (scanned ++ [candidate])
      (some (scanned.length, value)) := by
  cases known with
  | nearest first =>
      exact Scanned.nearest (first.replace comparable measured nearer)

/-- A search without NaN ends with what it knows of all candidates. -/
theorem exists_nearestFrom
    (known : Scanned distance scanned best)
    (candidates : List Candidate)
    (comparable : Comparable distance (scanned ++ candidates)) :
    ∃ last,
      Scanned distance (scanned ++ candidates) last ∧
        nearestFrom distance best scanned.length candidates =
          last.map Prod.fst := by
  -- One candidate after the other passes from what is left to what has been
  -- scanned; each of the four ways to treat it keeps what is known true.
  induction candidates generalizing scanned best with
  | nil =>
      rw [List.append_nil]
      exact ⟨best, known, rfl⟩
  | cons candidate candidates hypothesis =>
      have earlier : Comparable distance scanned :=
        fun other member =>
          comparable other (List.mem_append_left _ member)
      have next :
          scanned ++ candidate :: candidates =
            (scanned ++ [candidate]) ++ candidates := by
        rw [List.append_assoc, List.singleton_append]
      have counted :
          (scanned ++ [candidate]).length = scanned.length + 1 :=
        List.length_append
      rw [next] at comparable ⊢
      cases measure : distance candidate with
      | none =>
          rw [nearestFrom_of_none measure, ← counted]
          exact hypothesis (known.pass measure) comparable
      | some value =>
          rcases best with - | ⟨place, bestValue⟩
          · rw [nearestFrom_of_some measure, ← counted]
            exact hypothesis (known.begin measure) comparable
          by_cases noNearer : bestValue ≤ value
          · rw [nearestFrom_of_le measure noNearer, ← counted]
            exact hypothesis (known.keep measure noNearer) comparable
          · rw [nearestFrom_of_not_le measure noNearer, ← counted]
            exact hypothesis (known.replace earlier measure noNearer)
              comparable

end Scanned

/-- Without NaN, what is found is the first of the nearest candidates. -/
theorem isFirstNearest_of_nearest
    {candidates : List Candidate}
    {place : Nat}
    (comparable : Comparable distance candidates)
    (found : nearest distance candidates = some place) :
    ∃ before chosen value after,
      candidates = before ++ chosen :: after ∧
        place = before.length ∧
        IsFirstNearest distance before chosen value after := by
  have known : Scanned distance [] none :=
    Scanned.nothing fun candidate member => by cases member
  obtain ⟨last, all, ends⟩ :=
    known.exists_nearestFrom candidates comparable
  rw [nearest] at found
  rw [List.length_nil, found] at ends
  rw [List.nil_append] at all
  cases all with
  | nothing => cases ends
  | nearest first =>
      exact ⟨_, _, _, _, rfl, Option.some.inj ends, first⟩

/-! ## Searches that meet a NaN -/

section Disturbed

variable (distance)

/-- A search does the same further on in a list, with all places shifted. -/
theorem nearestFrom_add
    (best : Option (Nat × Float))
    (index offset : Nat)
    (candidates : List Candidate) :
    nearestFrom distance (best.map (Prod.map (offset + ·) id))
        (offset + index) candidates =
      (nearestFrom distance best index candidates).map (offset + ·) := by
  fun_induction nearestFrom distance best index candidates with
  | case1 best index =>
      rw [nearestFrom.eq_1, Option.map_map, Option.map_map]
      rfl
  | case2 best index candidate candidates measure hypothesis =>
      rw [nearestFrom_of_none measure]
      exact hypothesis
  | case3 index candidate candidates value measure hypothesis =>
      rw [Option.map_none, nearestFrom_of_some measure]
      exact hypothesis
  | case4 index candidate candidates value place bestValue measure noNearer
      hypothesis =>
      rw [Option.map_some, Prod.map, id, nearestFrom_of_le measure noNearer]
      exact hypothesis
  | case5 index candidate candidates value place bestValue measure beyond
      hypothesis =>
      rw [Option.map_some, Prod.map, id, nearestFrom_of_not_le measure beyond]
      exact hypothesis

/-- A search goes through the front of a list before it goes on. -/
theorem exists_nearestFrom_append
    (best : Option (Nat × Float))
    (index : Nat)
    (front : List Candidate) :
    ∃ last, ∀ back,
      nearestFrom distance best index (front ++ back) =
        nearestFrom distance last (index + front.length) back := by
  induction front generalizing best index with
  | nil => exact ⟨best, fun back => rfl⟩
  | cons candidate front hypothesis =>
      -- One candidate leads to some best candidate, whatever follows.
      have step :
          ∃ next, ∀ rest,
            nearestFrom distance best index (candidate :: rest) =
              nearestFrom distance next (index + 1) rest := by
        cases measure : distance candidate with
        | none => exact ⟨best, fun rest => nearestFrom_of_none measure⟩
        | some value =>
            rcases best with - | ⟨place, bestValue⟩
            · exact ⟨_, fun rest => nearestFrom_of_some measure⟩
            by_cases noNearer : bestValue ≤ value
            · exact ⟨_, fun rest => nearestFrom_of_le measure noNearer⟩
            · exact ⟨_, fun rest => nearestFrom_of_not_le measure noNearer⟩
      obtain ⟨next, stepped⟩ := step
      obtain ⟨last, ended⟩ := hypothesis next (index + 1)
      refine ⟨last, fun back => ?_⟩
      rw [List.cons_append, stepped, ended, List.length_cons]
      congr 1
      omega

/-- A NaN gives way to whatever has a distance. -/
theorem nearestFrom_isNaN
    {value : Float}
    (undefined : value.isNaN = true)
    (place index : Nat)
    (candidates : List Candidate) :
    nearestFrom distance (some (place, value)) index candidates =
      some ((nearestFrom distance none index candidates).getD place) := by
  induction candidates generalizing index with
  | nil => rfl
  | cons candidate candidates hypothesis =>
      cases measure : distance candidate with
      | none =>
          rw [nearestFrom_of_none measure, nearestFrom_of_none measure]
          exact hypothesis (index + 1)
      | some next =>
          have beyond := Number.not_le_of_isNaN undefined next
          rw [nearestFrom_of_not_le measure beyond,
            nearestFrom_of_some measure]
          have finds :
              (nearestFrom distance (some (index, next)) (index + 1)
                candidates).isSome = true :=
            isSome_nearestFrom (index, next) (index + 1) candidates
          obtain ⟨found, found_eq⟩ := Option.isSome_iff_exists.mp finds
          rw [found_eq, Option.getD_some]

end Disturbed

/-- Of the candidates up to a NaN only the one with the NaN can be found, and
only if no candidate after it has a distance. -/
theorem nearest_append_of_isNaN
    {disturbing : Candidate}
    {value : Float}
    (measured : distance disturbing = some value)
    (undefined : value.isNaN = true)
    (front back : List Candidate) :
    nearest distance (front ++ disturbing :: back) =
      some ((nearest distance back).elim front.length
        (front.length + 1 + ·)) := by
  obtain ⟨best, passed⟩ :=
    exists_nearestFrom_append distance none 0 front
  -- The best of the front does not compare with the NaN.
  have disturbed :
      nearestFrom distance best (0 + front.length) (disturbing :: back) =
        nearestFrom distance (some (front.length, value))
          (front.length + 1) back := by
    rw [Nat.zero_add]
    rcases best with - | ⟨place, bestValue⟩
    · exact nearestFrom_of_some measured
    · exact nearestFrom_of_not_le measured
        (Number.not_le_isNaN undefined bestValue)
  have shifted :=
    nearestFrom_add distance none 0 (front.length + 1) back
  rw [Option.map_none, Nat.add_zero] at shifted
  rw [nearest, passed, disturbed, nearestFrom_isNaN distance undefined, shifted,
    nearest]
  cases nearestFrom distance none 0 back <;> rfl

end Toolpath
