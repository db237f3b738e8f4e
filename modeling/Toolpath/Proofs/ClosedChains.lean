import Mathlib
import Toolpath.Proofs.DoubleBits
import Toolpath.Proofs.DoubleOrder
import Toolpath.Proofs.ImportedRecords
import Toolpath.Proofs.Position

/-!
# Closing a chain

The vertices of a polyline record make one chain, and the lowest bit of the
record's flags asks for a last cut back to the first vertex.  This module proves
what becomes of the vertices: the chain begins with all of them, and at most the
first one is repeated at the end, namely if the ends are apart.  The repeated
vertex is added before the chain is checked, but it cannot make a bad chain look
sound, since a lone vertex is already where it began and a vertex that is not
finite stays in the chain.
-/

namespace Toolpath

/-! ## Ends of a list of points -/

/-- Whether the first and the last point differ. -/
def EndsApart (points : List Point) : Prop :=
  ∃ first last, points.head? = some first ∧ points.getLast? = some last ∧
    (first == last) = false

theorem Point.beq_self
    {point : Point}
    (finite : point.isFinite = true) :
    (point == point) = true := by
  rw [isFinite, Bool.and_eq_true] at finite
  have x := Number.beq_self (Number.isNaN_eq_false finite.1)
  have y := Number.beq_self (Number.isNaN_eq_false finite.2)
  exact Bool.and_eq_true_iff.mpr ⟨x, y⟩

section Closing

variable {points : List Point}

theorem closeChain_of_apart
    (apart : EndsApart points) :
    ∃ first, points.head? = some first ∧
      closeChain points = points ++ [first] := by
  rcases apart with ⟨first, last, isFirst, isLast, differ⟩
  refine ⟨first, isFirst, ?_⟩
  simp [closeChain, isFirst, isLast, differ]

theorem closeChain_of_not_apart
    (together : ¬ EndsApart points) :
    closeChain points = points := by
  rw [closeChain]
  split
  next first last isFirst isLast =>
    split
    next => rfl
    next differ =>
      have apart : EndsApart points :=
        ⟨first, last, isFirst, isLast, by simpa using differ⟩
      exact (together apart).elim
  next => rfl

theorem prefix_closeChain (points : List Point) :
    points <+: closeChain points := by
  by_cases apart : EndsApart points
  · rcases closeChain_of_apart apart with ⟨first, -, closed⟩
    rw [closed]
    exact List.prefix_append points [first]
  · rw [closeChain_of_not_apart apart]

/-- One point more is there exactly if the ends are apart, and there are never
two more. -/
theorem length_closeChain_of_apart (apart : EndsApart points) :
    (closeChain points).length = points.length + 1 := by
  rcases closeChain_of_apart apart with ⟨first, -, closed⟩
  rw [closed, List.length_append, List.length_singleton]

/-- Only points that are finite are added to points that are. -/
theorem isFinite_of_mem_closeChain
    (finite : ∀ point ∈ points, point.isFinite = true) :
    ∀ point ∈ closeChain points, point.isFinite = true := by
  by_cases apart : EndsApart points
  · rcases closeChain_of_apart apart with ⟨first, isFirst, closed⟩
    rw [closed, List.forall_mem_append, List.forall_mem_singleton]
    exact ⟨finite, finite first (List.mem_of_mem_head? isFirst)⟩
  · rw [closeChain_of_not_apart apart]
    exact finite

/-- Closing makes no chain of points that could not be one before. -/
theorem canBeChain_closeChain_iff :
    CanBeChain (closeChain points) ↔ CanBeChain points := by
  constructor
  · rintro ⟨long, finite⟩
    have before : ∀ point ∈ points, point.isFinite = true :=
      fun point member =>
        finite point ((prefix_closeChain points).subset member)
    refine ⟨?_, before⟩
    match points with
    | [] => exact long
    | [point] =>
        have same := Point.beq_self (before point List.mem_cons_self)
        have alone : ¬ EndsApart [point] := by
          simp [EndsApart, same]
        rwa [closeChain_of_not_apart alone] at long
    | first :: second :: points => simp
  · rintro ⟨long, finite⟩
    exact ⟨long.trans (prefix_closeChain points).length_le,
      isFinite_of_mem_closeChain finite⟩

/-- Points that have been closed end where they begin. -/
theorem not_endsApart_closeChain
    (finite : ∀ point ∈ points, point.isFinite = true) :
    ¬ EndsApart (closeChain points) := by
  by_cases apart : EndsApart points
  · rcases closeChain_of_apart apart with ⟨first, isFirst, closed⟩
    have same := Point.beq_self (finite first (List.mem_of_mem_head? isFirst))
    simp [EndsApart, closed, isFirst, same]
  · rwa [closeChain_of_not_apart apart]

end Closing

/-! ## Records of polylines -/

theorem isClosed_eq_testBit (flags : Int) :
    isClosed flags = flags.testBit 0 := by
  cases flags with
  | ofNat flags =>
      rw [isClosed, Int.testBit, Nat.testBit_zero, decide_eq_decide,
        Int.ofNat_eq_natCast]
      omega
  | negSucc flags =>
      rw [isClosed, Int.testBit, Nat.testBit_zero, ← decide_not,
        decide_eq_decide]
      omega

/-- The two forms in which a drawing keeps the vertices of a polyline: in one
record, or in a record for every vertex. -/
inductive PolylineForm where
  | light
  | heavy

namespace PolylineForm

def record (form : PolylineForm) (points : List Point) (flags : Int) :
    DrawingRecord :=
  match form with
  | light => .lightPolyline points flags
  | heavy => .polyline points flags

/-- Whether vertices and flags in the given form are converted to an entity. -/
def Converts
    (form : PolylineForm)
    (points : List Point)
    (flags : Int)
    (entity : Entity) :
    Prop :=
  (form.record points flags).convert? = some (.ok entity)

variable (form : PolylineForm) (points : List Point)

theorem convert?_record (flags : Int) :
    (form.record points flags).convert? =
      some ((polylineOfRecord points flags).map .polyline) := by
  cases form <;> rfl

/-- Both forms are converted to a single chain. -/
theorem converts_iff {flags : Int} {entity : Entity} :
    form.Converts points flags entity ↔
      ∃ chain : Chain,
        chain.points = DrawingRecord.chainPoints points flags ∧
          entity = .polyline ⟨[chain]⟩ := by
  rw [Converts, convert?_record, Option.some.injEq]
  exact DrawingRecord.map_polylineOfRecord_eq_ok_iff

theorem exists_converts_iff {flags : Int} :
    (∃ entity, form.Converts points flags entity) ↔ CanBeChain points := by
  have closing :
      CanBeChain (DrawingRecord.chainPoints points flags) ↔
        CanBeChain points := by
    rw [DrawingRecord.chainPoints]
    split
    · exact canBeChain_closeChain_iff
    · exact Iff.rfl
  rw [← closing]
  constructor
  · rintro ⟨entity, converts⟩
    rcases (form.converts_iff points).mp converts with ⟨chain, joined, -⟩
    rw [← joined]
    exact chain.canBeChain
  · rintro ⟨long, finite⟩
    exact ⟨_, (form.converts_iff points).mpr
      ⟨⟨_, long, List.all_eq_true.mpr finite⟩, rfl, rfl⟩⟩

end PolylineForm

/--
What becomes of vertices in a chain, depending on whether they are to be closed.
-/
structure Chain.Closes
    (points : List Point)
    (closing : Bool)
    (chain : Chain) :
    Prop where
  /-- The vertices are kept, and nothing is put before them or in between. -/
  begins : points <+: chain.points
  /-- Without closing there is nothing else. -/
  unchanged_if_open : closing = false → chain.points = points
  /-- With equal ends there is nothing else, and so no cut without a length. -/
  unchanged_if_together : ¬ EndsApart points → chain.points = points
  /-- Otherwise the first vertex is repeated. -/
  first_again :
    closing = true → EndsApart points →
      ∃ first, points.head? = some first ∧ chain.points = points ++ [first]
  one_more_at_most : chain.points.length ≤ points.length + 1
  one_more_iff :
    chain.points.length = points.length + 1 ↔
      closing = true ∧ EndsApart points
  /-- A chain that has been closed ends where it begins. -/
  ends_together : closing = true → (chain.first == chain.last) = true
  /-- To close such a chain adds nothing to it. -/
  closed_once :
    closing = true →
      ∀ (form : PolylineForm) (flags : Int),
        form.Converts chain.points flags (.polyline ⟨[chain]⟩)

namespace Chain

variable {points : List Point} {chain : Chain}

theorem beq_last_of_together (together : ¬ EndsApart chain.points) :
    (chain.first == chain.last) = true := by
  rw [← Bool.not_eq_false]
  intro differ
  refine together ⟨chain.first, chain.last, ?_, ?_, differ⟩
  · rw [← chain.first_cons_further, List.head?_cons]
  · rw [← chain.first_cons_further, chain.getLast?_points]

theorem closes_of_open (joined : chain.points = points) :
    chain.Closes points false := by
  subst joined
  constructor
  case begins => exact List.prefix_refl chain.points
  case one_more_iff => simp
  all_goals simp

theorem closes_of_closed (joined : chain.points = closeChain points) :
    chain.Closes points true := by
  have begins := prefix_closeChain points
  have finite : ∀ point ∈ points, point.isFinite = true := by
    intro point member
    apply List.all_eq_true.mp chain.points_finite
    rw [joined]
    exact begins.subset member
  have together := not_endsApart_closeChain finite
  have unchanged (sameEnds : ¬ EndsApart points) : chain.points = points :=
    joined.trans (closeChain_of_not_apart sameEnds)
  have longer (apart : EndsApart points) :
      chain.points.length = points.length + 1 := by
    rw [joined, length_closeChain_of_apart apart]
  rw [← joined] at begins together
  constructor
  case begins => exact begins
  case unchanged_if_open => simp
  case unchanged_if_together => exact unchanged
  case first_again =>
    intro _ apart
    rcases closeChain_of_apart apart with ⟨first, isFirst, closed⟩
    exact ⟨first, isFirst, joined.trans closed⟩
  case one_more_at_most =>
    by_cases apart : EndsApart points
    · exact (longer apart).le
    · rw [unchanged apart]
      exact Nat.le_succ _
  case one_more_iff =>
    constructor
    · intro oneMore
      refine ⟨rfl, Classical.not_not.mp fun sameEnds => ?_⟩
      rw [unchanged sameEnds] at oneMore
      exact Nat.succ_ne_self _ oneMore.symm
    · rintro ⟨-, apart⟩
      exact longer apart
  case ends_together =>
    intro _
    exact chain.beq_last_of_together together
  case closed_once =>
    intro _ form flags
    refine (form.converts_iff chain.points).mpr ⟨chain, ?_, rfl⟩
    rw [DrawingRecord.chainPoints]
    split
    · exact (closeChain_of_not_apart together).symm
    · rfl

theorem closes_of_joined
    {flags : Int}
    (joined : chain.points = DrawingRecord.chainPoints points flags) :
    chain.Closes points (flags.testBit 0) := by
  rw [DrawingRecord.chainPoints, isClosed_eq_testBit] at joined
  cases closing : flags.testBit 0 with
  | false =>
      rw [closing] at joined
      exact closes_of_open joined
  | true =>
      rw [closing] at joined
      exact closes_of_closed joined

end Chain

/--
What becomes of the vertices of a polyline record under the given flags.
-/
structure PolylineForm.Closes
    (form : PolylineForm)
    (points : List Point)
    (flags : Int) :
    Prop where
  /-- Two finite vertices are needed, and enough. -/
  converts_iff :
    (∃ entity, form.Converts points flags entity) ↔
      2 ≤ points.length ∧ ∀ point ∈ points, point.isFinite = true
  /-- What is converted when it is to be closed is what is converted when it is
  not. -/
  converts_iff_open :
    ∀ openFlags : Int, openFlags.testBit 0 = false →
      ((∃ entity, form.Converts points flags entity) ↔
        ∃ entity, form.Converts points openFlags entity)
  /-- No other bit of the flags matters. -/
  lowest_bit_only :
    ∀ otherFlags : Int, otherFlags.testBit 0 = flags.testBit 0 →
      (form.record points otherFlags).convert? =
        (form.record points flags).convert?
  /-- The entity is a polyline of one chain. -/
  converts_to_chain :
    ∀ entity, form.Converts points flags entity →
      ∃ chain : Chain,
        entity = .polyline ⟨[chain]⟩ ∧
          chain.Closes points (flags.testBit 0)

/-- Any vertices in either form, under any flags, are closed in this way. -/
theorem vertices_closed
    (form : PolylineForm)
    (points : List Point)
    (flags : Int) :
    form.Closes points flags := by
  constructor
  case converts_iff => exact form.exists_converts_iff points
  case converts_iff_open =>
    intro openFlags _
    rw [form.exists_converts_iff, form.exists_converts_iff]
  case lowest_bit_only =>
    intro otherFlags same
    rw [form.convert?_record, form.convert?_record, polylineOfRecord,
      polylineOfRecord, isClosed_eq_testBit, isClosed_eq_testBit, same]
  case converts_to_chain =>
    intro entity converts
    rcases (form.converts_iff points).mp converts with
      ⟨chain, joined, isPolyline⟩
    exact ⟨chain, isPolyline, Chain.closes_of_joined joined⟩

end Toolpath
