import Mathlib.Order.Bounds.Basic
import Toolpath.Motion.Emission

/-!
# Polylines from rows of points

Rows of points become the chains of a polyline as they are, if each of them has
at least two points and all of its points are finite.  Otherwise the first row
that cannot be a chain is blamed: for its length if it is too short, whatever
its points are, and else for a point that is not finite.

No chain is empty, therefore.  To cut a polyline row by row and pass over empty
rows would pass over nothing, and a starting point is absent only where there
are no chains at all.
-/

namespace Toolpath

/-- Whether points can be the points of a chain. -/
def CanBeChain (points : List Point) : Prop :=
  2 ≤ points.length ∧ ∀ point ∈ points, point.isFinite = true

/-- What is wrong with a row that cannot be a chain: its length comes first. -/
inductive BlamesRow (index : Nat) (row : List Point) : EntityError → Prop where
  | short
      (fewer : row.length < 2) :
      BlamesRow index row (.flawed (.shortChain index row.length))
  | notFinite
      (enough : 2 ≤ row.length)
      (unsound : ∃ point ∈ row, point.isFinite = false) :
      BlamesRow index row (.flawed (.chainPoint index))

theorem BlamesRow.not_canBeChain
    {index : Nat}
    {row : List Point}
    {cause : EntityError}
    (blames : BlamesRow index row cause) :
    ¬ CanBeChain row := by
  rintro ⟨long, finite⟩
  cases blames with
  | short fewer => omega
  | notFinite _ unsound =>
      obtain ⟨point, member, notFinite⟩ := unsound
      rw [finite point member] at notFinite
      cases notFinite

theorem BlamesRow.unique
    {index : Nat}
    {row : List Point}
    {cause other : EntityError}
    (blames : BlamesRow index row cause)
    (blamesOther : BlamesRow index row other) :
    other = cause := by
  cases blames with
  | short fewer =>
      cases blamesOther with
      | short _ => rfl
      | notFinite enough _ => omega
  | notFinite enough _ =>
      cases blamesOther with
      | short fewer => omega
      | notFinite _ _ => rfl

/-! ## One row -/

namespace Chain

theorem canBeChain (chain : Chain) : CanBeChain chain.points :=
  ⟨chain.two_points, List.all_eq_true.mp chain.points_finite⟩

/-- The points of a chain make this chain. -/
theorem ofPoints?_points (index : Nat) (chain : Chain) :
    ofPoints? index chain.points = .ok chain := by
  rw [ofPoints?, dif_pos chain.two_points, dif_pos chain.points_finite]

/-- A row becomes a chain of its points, or it is blamed. -/
theorem ofPoints?_cases (index : Nat) (row : List Point) :
    (∃ chain : Chain,
      chain.points = row ∧ ofPoints? index row = .ok chain) ∨
    ∃ cause, BlamesRow index row cause ∧
      ofPoints? index row = .error cause := by
  rw [ofPoints?]
  split
  next long =>
    split
    next finite => exact .inl ⟨_, rfl, rfl⟩
    next notAll =>
      refine .inr ⟨_, .notFinite long ?_, rfl⟩
      simpa using notAll
  next short => exact .inr ⟨_, .short (by omega), rfl⟩

/-! ## All rows -/

theorem ofRows?_cons_of_ok
    {index : Nat}
    {row : List Point}
    {chain : Chain}
    (built : ofPoints? index row = .ok chain)
    (rows : List (List Point)) :
    ofRows? index (row :: rows) =
      (ofRows? (index + 1) rows).map (chain :: ·) := by
  rw [ofRows?, built]
  cases ofRows? (index + 1) rows <;> rfl

theorem ofRows?_cons_of_error
    {index : Nat}
    {row : List Point}
    {cause : EntityError}
    (refused : ofPoints? index row = .error cause)
    (rows : List (List Point)) :
    ofRows? index (row :: rows) = .error cause := by
  rw [ofRows?, refused]
  rfl

theorem ofRows?_map_points (index : Nat) (chains : List Chain) :
    ofRows? index (chains.map points) = .ok chains := by
  induction chains generalizing index with
  | nil => rfl
  | cons chain chains hypothesis =>
      rw [List.map_cons, ofRows?_cons_of_ok (ofPoints?_points index chain),
        hypothesis]
      rfl

/-- Rows become chains of their points, or the first of them that cannot be one
is blamed. -/
theorem ofRows?_cases (index : Nat) (rows : List (List Point)) :
    (∃ chains : List Chain,
      chains.map points = rows ∧ ofRows? index rows = .ok chains) ∨
    ∃ before row after cause,
      rows = before ++ row :: after ∧
        (∀ earlier ∈ before, CanBeChain earlier) ∧
        BlamesRow (index + before.length) row cause ∧
        ofRows? index rows = .error cause := by
  induction rows generalizing index with
  | nil => exact .inl ⟨[], rfl, rfl⟩
  | cons row rows hypothesis =>
      rcases ofPoints?_cases index row with
        ⟨chain, rfl, built⟩ | ⟨cause, blames, refused⟩
      · rcases hypothesis (index + 1) with
          ⟨chains, rfl, builtAll⟩ |
            ⟨before, bad, after, cause, rfl, sound, blames, refused⟩
        · refine .inl ⟨chain :: chains, rfl, ?_⟩
          rw [ofRows?_cons_of_ok built, builtAll]
          rfl
        · refine .inr ⟨chain.points :: before, bad, after, cause, rfl,
            List.forall_mem_cons.mpr ⟨chain.canBeChain, sound⟩, ?_, ?_⟩
          · rwa [List.length_cons, Nat.add_comm before.length 1,
              ← Nat.add_assoc]
          · rw [ofRows?_cons_of_ok built, refused]
            rfl
      · exact .inr ⟨[], row, rows, cause, rfl, by simp, blames,
          ofRows?_cons_of_error refused rows⟩

end Chain

/-- The place of the first row that cannot be a chain. -/
def IsFirstUnsound (rows : List (List Point)) (index : Nat) : Prop :=
  IsLeast {place | ∃ row, rows[place]? = some row ∧ ¬ CanBeChain row} index

theorem isFirstUnsound_length
    {before after : List (List Point)}
    {row : List Point}
    (sound : ∀ earlier ∈ before, CanBeChain earlier)
    (unsound : ¬ CanBeChain row) :
    IsFirstUnsound (before ++ row :: after) before.length := by
  constructor
  · exact ⟨row, by simp, unsound⟩
  · rintro place ⟨other, listed, otherUnsound⟩
    refine Nat.le_of_not_lt fun earlier => ?_
    rw [List.getElem?_append_left earlier] at listed
    exact otherUnsound (sound other (List.mem_of_getElem? listed))

/-- The words for what is wrong with a row. -/
def rowComplaint (index : Nat) (row : List Point) : String :=
  if row.length < 2 then
    "polyline chain " ++ toString index ++ " has " ++ toString row.length
      ++ " point(s), at least 2 required"
  else
    "polyline chain " ++ toString index ++ " contains a non-finite point"

/-- A row is blamed in these words, as invalid geometry. -/
theorem BlamesRow.reported
    {index : Nat}
    {row : List Point}
    {cause : EntityError}
    (blames : BlamesRow index row cause) :
    cause.family = .invalidGeometry ∧
      cause.message = "Invalid geometry: " ++ rowComplaint index row := by
  cases blames with
  | short fewer =>
      rw [rowComplaint, if_pos fewer]
      exact ⟨rfl, rfl⟩
  | notFinite enough _ =>
      rw [rowComplaint, if_neg (Nat.not_lt.mpr enough)]
      exact ⟨rfl, rfl⟩

/-! ## Polylines -/

namespace PolyLine

/-- The points of the chains of a polyline. -/
def rows (shape : PolyLine) : List (List Point) :=
  shape.chains.map Chain.points

theorem canBeChain_of_mem_rows
    {shape : PolyLine}
    {row : List Point}
    (member : row ∈ shape.rows) :
    CanBeChain row := by
  obtain ⟨chain, -, rfl⟩ := List.mem_map.mp member
  exact chain.canBeChain

/-- A polyline is made of its own rows, and of no others. -/
theorem ofRows?_eq_ok_iff
    {rows : List (List Point)}
    {shape : PolyLine} :
    ofRows? rows = .ok shape ↔ shape.rows = rows := by
  constructor
  · intro built
    rcases Chain.ofRows?_cases 0 rows with
      ⟨chains, same, all⟩ | ⟨_, _, _, cause, -, -, -, refused⟩
    · rw [ofRows?, all] at built
      cases built
      exact same
    · rw [ofRows?, refused] at built
      cases built
  · rintro rfl
    rw [ofRows?, PolyLine.rows, Chain.ofRows?_map_points]
    rfl

theorem ofRows?_singleton_eq_ok_iff
    {points : List Point}
    {shape : PolyLine} :
    ofRows? [points] = .ok shape ↔
      ∃ chain, shape.chains = [chain] ∧ chain.points = points := by
  rw [ofRows?_eq_ok_iff, PolyLine.rows, List.map_eq_singleton_iff]

/-- Rows make a polyline, or the first of them that cannot be a chain is
blamed. -/
theorem ofRows?_cases (rows : List (List Point)) :
    (∃ shape, ofRows? rows = .ok shape) ∨
    ∃ index row cause,
      IsFirstUnsound rows index ∧ rows[index]? = some row ∧
        BlamesRow index row cause ∧ ofRows? rows = .error cause := by
  rcases Chain.ofRows?_cases 0 rows with
    ⟨chains, -, all⟩ |
      ⟨before, row, after, cause, rfl, sound, blames, refused⟩
  · refine .inl ⟨⟨chains⟩, ?_⟩
    rw [ofRows?, all]
    rfl
  · rw [Nat.zero_add] at blames
    refine .inr ⟨before.length, row, cause,
      isFirstUnsound_length sound blames.not_canBeChain, by simp, blames, ?_⟩
    rw [ofRows?, refused]
    rfl

theorem exists_ofRows?_iff {rows : List (List Point)} :
    (∃ shape, ofRows? rows = .ok shape) ↔ ∀ row ∈ rows, CanBeChain row := by
  constructor
  · rintro ⟨shape, built⟩ row member
    rw [← ofRows?_eq_ok_iff.mp built] at member
    exact canBeChain_of_mem_rows member
  · intro sound
    rcases ofRows?_cases rows with
      built | ⟨index, row, cause, -, listed, blames, -⟩
    · exact built
    · exact (blames.not_canBeChain
        (sound row (List.mem_of_getElem? listed))).elim

theorem ofRows?_eq_error_iff
    {rows : List (List Point)}
    {cause : EntityError} :
    ofRows? rows = .error cause ↔
      ∃ index row,
        IsFirstUnsound rows index ∧ rows[index]? = some row ∧
          BlamesRow index row cause := by
  constructor
  · intro failed
    rcases ofRows?_cases rows with
      ⟨shape, built⟩ | ⟨index, row, other, first, listed, blames, refused⟩
    · rw [built] at failed
      cases failed
    · rw [refused] at failed
      cases failed
      exact ⟨index, row, first, listed, blames⟩
  · rintro ⟨index, row, first, listed, blames⟩
    rcases ofRows?_cases rows with
      built | ⟨other, otherRow, otherCause, firstOther, listedOther,
        blamesOther, refused⟩
    · have sound := exists_ofRows?_iff.mp built row
        (List.mem_of_getElem? listed)
      exact (blames.not_canBeChain sound).elim
    · obtain rfl := first.unique firstOther
      obtain rfl := Option.some.inj (listed.symm.trans listedOther)
      rw [refused, blames.unique blamesOther]

/-! ## Cutting and starting -/

/-- The calls by which a row of points is cut; an empty row is passed over. -/
def rowCalls? (label : String) : List Point → Option (List Call)
  | [] => none
  | first :: further =>
    some
      ([.comment label, .go first, .start]
        ++ drawThrough further
        ++ [.stop, .separator])

/-- A chain is a row that is not passed over. -/
theorem rowCalls?_points (label : String) (chain : Chain) :
    rowCalls? label chain.points = some (chain.calls label) := by
  rw [← chain.first_cons_further]
  rfl

theorem calls_eq_rowCalls (shape : PolyLine) :
    shape.calls =
      (shape.rows.filterMap (rowCalls? shape.label)).flatten := by
  have whole :
      rowCalls? shape.label ∘ Chain.points =
        some ∘ Chain.calls shape.label :=
    funext (rowCalls?_points shape.label)
  rw [rows, List.filterMap_map, whole, List.filterMap_eq_map, calls,
    List.flatMap_def]

/-- The first point of the first row, if there is a row and it has any. -/
def firstPoint? (shape : PolyLine) : Option Point :=
  shape.rows.head?.bind List.head?

theorem firstPoint?_of_cons
    {shape : PolyLine}
    {chain : Chain}
    {further : List Chain}
    (chains : shape.chains = chain :: further) :
    shape.firstPoint? = some chain.first := by
  rw [firstPoint?, rows, chains, List.map_cons, List.head?_cons,
    Option.bind_some, ← chain.first_cons_further, List.head?_cons]

theorem firstPoint?_eq_none_iff {shape : PolyLine} :
    shape.firstPoint? = none ↔ shape.rows = [] := by
  cases chains : shape.chains with
  | nil => simp [firstPoint?, rows, chains]
  | cons chain further =>
      simp [firstPoint?_of_cons chains, rows, chains]

/-- Cutting begins with the first point of the first row. -/
theorem start?_eq_ok_iff
    {shape : PolyLine}
    {point : Point} :
    (Entity.polyline shape).start? = .ok point ↔
      shape.firstPoint? = some point := by
  cases chains : shape.chains with
  | nil => simp [Entity.start?, firstPoint?, rows, chains]
  | cons chain further =>
      simp [Entity.start?, firstPoint?_of_cons chains, chains]

theorem start?_eq_error_iff
    {shape : PolyLine}
    {cause : EntityError} :
    (Entity.polyline shape).start? = .error cause ↔
      shape.rows = [] ∧ cause = .noGeometry shape.label := by
  cases chains : shape.chains with
  | nil =>
      simp only [Entity.start?, rows, chains, List.map_nil, true_and,
        Except.error.injEq]
      exact eq_comm
  | cons chain further => simp [Entity.start?, rows, chains]

/-- What a polyline owes to the soundness of its rows. -/
structure IsWhole (shape : PolyLine) : Prop where
  /-- It can be made of its rows. -/
  built : ofRows? shape.rows = .ok shape
  /-- Cutting it row by row passes over no row. -/
  none_passed_over :
    ∀ row ∈ shape.rows, rowCalls? shape.label row ≠ none
  calls_eq :
    (Entity.polyline shape).calls? =
      .ok (shape.rows.filterMap (rowCalls? shape.label)).flatten
  /-- It has a first point unless it has no rows. -/
  start_absent_iff : shape.firstPoint? = none ↔ shape.rows = []
  start_iff : ∀ point,
    (Entity.polyline shape).start? = .ok point ↔
      shape.firstPoint? = some point
  start_error_iff : ∀ cause,
    (Entity.polyline shape).start? = .error cause ↔
      shape.rows = [] ∧ cause = .noGeometry shape.label

theorem isWhole (shape : PolyLine) : shape.IsWhole := by
  constructor
  case built => exact ofRows?_eq_ok_iff.mpr rfl
  case none_passed_over =>
    intro row member
    obtain ⟨chain, -, rfl⟩ := List.mem_map.mp member
    rw [rowCalls?_points]
    exact Option.some_ne_none _
  case calls_eq => exact congrArg Except.ok shape.calls_eq_rowCalls
  case start_absent_iff => exact firstPoint?_eq_none_iff
  case start_iff => exact fun point => start?_eq_ok_iff
  case start_error_iff => exact fun cause => start?_eq_error_iff

/--
Rows make a polyline exactly if each of them can be a chain, and then they are
kept as they are.  Otherwise the first row that cannot be one is blamed, for its
length before its points.  So no polyline has a row that is passed over when it
is cut, and only one without rows has no starting point.
-/
theorem made_of_sound_rows (rows : List (List Point)) :
    ((∃ shape, ofRows? rows = .ok shape) ↔
      ∀ row ∈ rows, 2 ≤ row.length ∧ ∀ point ∈ row, point.isFinite = true) ∧
    (∀ shape, ofRows? rows = .ok shape ↔ shape.rows = rows) ∧
    (∀ cause, ofRows? rows = .error cause ↔
      ∃ index row,
        IsFirstUnsound rows index ∧ rows[index]? = some row ∧
          BlamesRow index row cause) ∧
    (∀ index row cause, BlamesRow index row cause →
      cause.family = .invalidGeometry ∧
        cause.message = "Invalid geometry: " ++ rowComplaint index row) ∧
    ∀ shape : PolyLine, shape.IsWhole :=
  ⟨exists_ofRows?_iff, fun _ => ofRows?_eq_ok_iff,
    fun _ => ofRows?_eq_error_iff, fun _ _ _ blames => blames.reported,
    isWhole⟩

-- The empty row does not take the blame from the row before it.
example :
    ofRows? [[.origin, .origin], [.origin, ⟨0.0 / 0.0, 0.0⟩], []] =
      .error (.flawed (.chainPoint 1)) :=
  rfl

end PolyLine

end Toolpath
