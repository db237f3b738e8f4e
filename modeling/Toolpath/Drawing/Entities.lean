import Toolpath.Drawing.Draft
import Toolpath.Drawing.Item
import Toolpath.Drawing.Nesting

/-!
# Reading the entities of a section

An entity begins with a tag of code zero, which names its type, and ends
before the next one.  Entities of types that are not known are passed over.
Reading stops before the end of the section or block, and after anything that
cannot be read.

The main statements say that reading never returns more items than it was
given, and fewer of them when it finds an entity.
-/

namespace Toolpath

/-- The code of the tags that begin an entity, a section or a block. -/
def beginningCode : Int := 0

/-- The name in a tag that begins something. -/
def Tag.beginning? (tag : Tag) : Option String := tag.textOf? beginningCode

/-- The name in an item that begins something. -/
def Item.beginning? : Item → Option String
  | .tag content => content.beginning?
  | _ => none

/-- Whether a name ends the entities of a section or block. -/
def isEntitiesEnd (name : String) : Bool :=
  name = "ENDSEC" || name = "ENDBLK"

theorem isEntitiesEnd_eq_false
    {name : String}
    (inBlock : name ≠ "ENDBLK")
    (inSection : name ≠ "ENDSEC") :
    isEntitiesEnd name = false := by
  simp [isEntitiesEnd, inBlock, inSection]

/-- Completes a draft with the tags that follow, and returns the rest. -/
def Draft.complete (draft : Draft) (nesting : Nesting) :
    List Item → Option Draft × List Item
  | [] =>
    (if draft.isKeptAtGap && nesting.isFinished then some draft else none,
      [])
  | .gap :: items =>
    match nesting.afterGap with
    | .own => (if draft.isKeptAtGap then some draft else none, items)
    | .nested next => draft.complete next items
    | .refused => (none, items)
  | .unreadable :: items => (none, items)
  | .tag tag :: items =>
    match nesting.afterTag tag with
    | .nested next => draft.complete next items
    | .refused => (none, items)
    | .own =>
      match tag.beginning? with
      | some _ => (some draft, .tag tag :: items)
      | none =>
        match draft.withTag? tag with
        | some draft => draft.complete .outside items
        | none => (none, items)

/-- Reads the next entity of a known type, and returns the rest; tags before
its beginning are passed over only while `skipping`. -/
def readEntity (skipping : Bool) :
    List Item → Option Draft × List Item
  | [] => (none, [])
  | .gap :: items => (none, items)
  | .unreadable :: items => (none, items)
  | .tag tag :: items =>
    match tag.beginning? with
    | none => if skipping then readEntity true items else (none, items)
    | some name =>
      if isEntitiesEnd name then (none, .tag tag :: items)
      else
        match Draft.ofType? name with
        | some draft => draft.complete .outside items
        | none => readEntity true items

theorem Draft.length_complete
    (draft : Draft)
    (nesting : Nesting)
    (items : List Item) :
    (draft.complete nesting items).2.length ≤ items.length := by
  fun_induction Draft.complete draft nesting items with
  | case1 => exact Nat.le_refl _
  | case2 => exact Nat.le_succ _
  | case3 _ _ _ _ _ hypothesis => exact Nat.le_succ_of_le hypothesis
  | case4 => exact Nat.le_succ _
  | case5 => exact Nat.le_succ _
  | case6 _ _ _ _ _ _ hypothesis => exact Nat.le_succ_of_le hypothesis
  | case7 => exact Nat.le_succ _
  | case8 => exact Nat.le_refl _
  | case9 _ _ _ _ _ _ _ _ hypothesis =>
    exact Nat.le_succ_of_le hypothesis
  | case10 => exact Nat.le_succ _

/-- Reading an entity consumes items, unless it stops before an end. -/
theorem length_readEntity
    (skipping : Bool)
    (items : List Item) :
    (readEntity skipping items).2.length ≤ items.length
      ∧ ((readEntity skipping items).1.isSome →
        (readEntity skipping items).2.length < items.length) := by
  fun_induction readEntity skipping items with
  | case1 => simp
  | case2 => simp
  | case3 => simp
  | case4 tag items _ hypothesis =>
    exact ⟨Nat.le_succ_of_le hypothesis.1,
      fun found => Nat.lt_succ_of_lt (hypothesis.2 found)⟩
  | case5 => simp
  | case6 => simp
  | case7 _ tag items name _ _ draft _ =>
    have := draft.length_complete .outside items
    exact ⟨Nat.le_succ_of_le this, fun _ => Nat.lt_succ_of_le this⟩
  | case8 _ tag items name _ _ _ hypothesis =>
    exact ⟨Nat.le_succ_of_le hypothesis.1,
      fun found => Nat.lt_succ_of_lt (hypothesis.2 found)⟩

theorem length_readEntity_beginning
    (tag : Tag)
    (items : List Item)
    (name : String)
    (begins : tag.beginning? = some name)
    (inside : isEntitiesEnd name = false) :
    (readEntity false (.tag tag :: items)).2.length ≤ items.length := by
  rw [readEntity]
  simp only [begins, inside, Bool.false_eq_true, ↓reduceIte]
  split
  · exact Draft.length_complete _ _ items
  · exact (length_readEntity true items).1

/-- What the entities read so far lead to expect. -/
inductive Expectation where
  | entity
  /-- Further vertices of a polyline with the given ones and flags. -/
  | vertices (points : List Point) (flags : Int)
  /-- Further attributes of an insertion that has been recorded. -/
  | attributes
  /-- The end of vertices or attributes of an entity that has been
  recorded. -/
  | sequenceEnd
  /-- The text of an attribute or its definition that has been recorded. -/
  | attributeText

/-- How many readings without an entity an expectation can outlast. -/
def Expectation.rank : Expectation → Nat
  | entity => 0
  | sequenceEnd => 1
  | attributeText => 1
  | attributes => 2
  | vertices _ _ => 2

theorem Expectation.rank_le (expectation : Expectation) :
    expectation.rank ≤ 2 := by
  cases expectation <;> simp [rank]

/-- The records that are complete when something other than what is expected
is met. -/
def Expectation.pendingRecords : Expectation → List DrawingRecord
  | vertices points flags => [.polyline points flags]
  | _ => []

/--
The expectation after an entity, and the records that are complete with it.  A
dimension of unknown kind counts for nothing.
-/
def Expectation.next (expectation : Expectation) (draft : Draft) :
    List DrawingRecord × Expectation :=
  match expectation, draft with
  | expectation, .dimension false => ([], expectation)
  | vertices points flags, .vertex location =>
    ([], vertices (points ++ [location]) flags)
  | attributes, .attributeValue _ => ([], attributes)
  | vertices points flags, .sequenceEnd =>
    ([.polyline points flags], entity)
  | attributes, .sequenceEnd => ([], entity)
  | sequenceEnd, .sequenceEnd => ([], entity)
  | attributeText, .multilineText => ([], entity)
  | expectation, .record (.polyline points flags) =>
    (expectation.pendingRecords, vertices points flags)
  | expectation, .insertion true =>
    (expectation.pendingRecords ++ [.other], attributes)
  | expectation, .attributeValue _ =>
    (expectation.pendingRecords ++ [.other], attributeText)
  | expectation, .attributeDefinition _ =>
    (expectation.pendingRecords ++ [.other], attributeText)
  | expectation, draft =>
    (expectation.pendingRecords ++ [draft.toRecord], entity)

/-- Reads entities for as long as there are any, and returns their records and
the rest. -/
def readEntities
    (expectation : Expectation)
    (items : List Item) :
    List DrawingRecord × List Item :=
  match _reading : readEntity false items with
  | (some draft, rest) =>
    let (records, next) := expectation.next draft
    let (further, rest) := readEntities next rest
    (records ++ further, rest)
  | (none, rest) =>
    match expectation with
    | .entity => ([], rest)
    | .sequenceEnd => readEntities .entity rest
    | .attributeText => readEntities .entity rest
    | .attributes => readEntities .sequenceEnd rest
    | .vertices points flags =>
      let (further, rest) := readEntities .sequenceEnd rest
      (.polyline points flags :: further, rest)
termination_by 3 * items.length + expectation.rank
decreasing_by
  · have bound := (length_readEntity false items).2
    simp only [_reading, Option.isSome_some, true_implies] at bound
    have := next.rank_le
    omega
  all_goals
    have bound := (length_readEntity false items).1
    simp only [_reading] at bound
    simp only [Expectation.rank]
    omega

theorem length_readEntities
    (expectation : Expectation)
    (items : List Item) :
    (readEntities expectation items).2.length ≤ items.length := by
  fun_induction readEntities expectation items with
  | case1 expectation items draft rest reading records next _ further left
      same hypothesis =>
    have bound := (length_readEntity false items).1
    simp_all
    omega
  | case2 items rest reading =>
    have bound := (length_readEntity false items).1
    simp_all
  | case3 items rest reading hypothesis =>
    have bound := (length_readEntity false items).1
    simp_all
    omega
  | case4 items rest reading hypothesis =>
    have bound := (length_readEntity false items).1
    simp_all
    omega
  | case5 items rest reading hypothesis =>
    have bound := (length_readEntity false items).1
    simp_all
    omega
  | case6 items rest reading points flags further left same hypothesis =>
    have bound := (length_readEntity false items).1
    simp_all
    omega

theorem length_readEntities_beginning
    (tag : Tag)
    (items : List Item)
    (name : String)
    (begins : tag.beginning? = some name)
    (inside : isEntitiesEnd name = false) :
    (readEntities .entity (.tag tag :: items)).2.length ≤ items.length := by
  have bound := length_readEntity_beginning tag items name begins inside
  rw [readEntities]
  split
  · rename_i draft rest reading
    rw [reading] at bound
    exact Nat.le_trans (length_readEntities _ rest) bound
  · rename_i rest reading
    rw [reading] at bound
    exact bound

end Toolpath
