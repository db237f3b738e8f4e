import Toolpath.Drawing.Entities

/-!
# Reading blocks

A block has tags of its own and entities, which are read like those of a
drawing, except that the block goes on after anything that cannot be read.

The main statements say that reading never returns more items than it was
given.
-/

namespace Toolpath

/-- Passes over items up to the next beginning. -/
def skipToBeginning? : List Item → Option (List Item)
  | .tag tag :: items =>
    if tag.beginning?.isSome then some (.tag tag :: items)
    else skipToBeginning? items
  | _ => none

def blockHandleCodes : List Int := [5, 330]

/-- Reads a block after its beginning, up to whatever begins after its end.
The end of the section or of the file ends the block as well. -/
def readBlock?
    (nesting : Nesting)
    (items : List Item) :
    Option (List DrawingRecord × List Item) :=
  match items with
  | .tag tag :: rest =>
    match nesting.afterTag tag with
    | .nested next => readBlock? next rest
    | .refused => none
    | .own =>
      match _begins : tag.beginning? with
      | none =>
        if tag.lacksHandle blockHandleCodes then none
        else readBlock? .outside rest
      | some name =>
        if _ends : name = "ENDBLK" then
          (skipToBeginning? rest).map fun rest => ([], rest)
        else if _breaks : name = "ENDSEC" ∨ name = "EOF" then
          some ([], items)
        else
          let reading := readEntities .entity (.tag tag :: rest)
          (readBlock? .outside reading.2).map fun (records, rest) =>
            (reading.1 ++ records, rest)
  | .gap :: rest =>
    match nesting.afterGap with
    | .nested next => readBlock? next rest
    | _ => none
  | _ => none
termination_by items.length
decreasing_by
  · simp
  · simp
  · exact Nat.lt_succ_of_le
      (length_readEntities_beginning tag rest name _begins
        (isEntitiesEnd_eq_false _ends fun same => _breaks (.inl same)))
  · simp

theorem length_skipToBeginning
    {items rest : List Item}
    (skipped : skipToBeginning? items = some rest) :
    rest.length ≤ items.length := by
  fun_induction skipToBeginning? items with
  | case1 tag items begins =>
    cases skipped
    exact Nat.le_refl _
  | case2 tag items begins hypothesis =>
    exact Nat.le_succ_of_le (hypothesis skipped)
  | case3 => cases skipped

theorem length_readBlock
    {nesting : Nesting}
    {items rest : List Item}
    {records : List DrawingRecord}
    (read : readBlock? nesting items = some (records, rest)) :
    rest.length ≤ items.length := by
  fun_induction readBlock? nesting items generalizing records with
  | case1 nesting tag items next inside hypothesis =>
    exact Nat.le_succ_of_le (hypothesis read)
  | case2 => cases read
  | case3 => cases read
  | case4 nesting tag items own begins sound hypothesis =>
    exact Nat.le_succ_of_le (hypothesis read)
  | case5 nesting tag items own begins =>
    obtain ⟨left, skipped, same⟩ := Option.map_eq_some_iff.mp read
    cases same
    exact Nat.le_succ_of_le (length_skipToBeginning skipped)
  | case6 =>
    cases read
    exact Nat.le_refl _
  | case7 nesting tag items own name begins ends breaks reading =>
    rename_i hypothesis
    obtain ⟨⟨further, left⟩, continued, same⟩ :=
      Option.map_eq_some_iff.mp read
    cases same
    have bound := length_readEntities_beginning tag items name begins
      (isEntitiesEnd_eq_false ends fun same => breaks (.inl same))
    exact Nat.le_succ_of_le (Nat.le_trans (hypothesis continued) bound)
  | case8 nesting items next inside hypothesis =>
    exact Nat.le_succ_of_le (hypothesis read)
  | case9 => cases read
  | case10 => cases read

/-- Reads blocks up to the end of their section. -/
def readBlocks? (items : List Item) :
    Option (List (List DrawingRecord) × List Item) :=
  match items with
  | .tag tag :: rest =>
    match tag.beginning? with
    | some "BLOCK" =>
      match _reading : readBlock? .outside rest with
      | some (records, rest) =>
        (readBlocks? rest).map fun (blocks, rest) =>
          (records :: blocks, rest)
      | none => none
    | some "ENDSEC" => some ([], items)
    | _ => none
  | _ => none
termination_by items.length
decreasing_by exact Nat.lt_succ_of_le (length_readBlock _reading)

end Toolpath
