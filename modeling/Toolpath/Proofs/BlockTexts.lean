import Mathlib
import Toolpath.Proofs.LineBreaks
import Toolpath.Proofs.Separators

/-!
# Blocks in the text of a program

The body of a program is a list of texts, and this module reads it back.  Only a
separator writes an empty text, so the body falls into blocks when it is cut
after each of them, with nothing left over: one block for each line, circle, arc
and chain of a polyline, in the order in which these are cut.

A block begins with the label of its entity in parentheses.  A polyline has its
label in as many blocks as it has chains, but the label says how many these are.
So the labels of all entities that have been cut can be read off the text, each
of them once.
-/

namespace Toolpath

/-! ## Parts of several entities -/

/-- An entity for each of its parts, together with the calls of the part. -/
def Entity.labelledParts (entity : Entity) : List (Entity × List Call) :=
  entity.parts.map fun calls => (entity, calls)

def partsOf (entities : List Entity) : List (Entity × List Call) :=
  entities.flatMap Entity.labelledParts

theorem partsOf_cons (entity : Entity) (entities : List Entity) :
    partsOf (entity :: entities) =
      entity.labelledParts ++ partsOf entities :=
  List.flatMap_cons

/-- The parts of entities make up their calls. -/
theorem flatMap_snd_partsOf (entities : List Entity) :
    (partsOf entities).flatMap Prod.snd = callsOf entities := by
  induction entities with
  | nil => rfl
  | cons entity entities hypothesis =>
      have own : entity.labelledParts.flatMap Prod.snd = entity.calls := by
        rw [Entity.labelledParts, List.flatMap_map, ← entity.flatten_parts]
        exact List.flatMap_id
      rw [partsOf_cons, List.flatMap_append, own, hypothesis, callsOf_cons]

theorem Entity.opening_of_mem_parts (entity : Entity) :
    ∀ calls ∈ entity.parts, Opening calls := by
  cases entity with
  | line shape =>
      rw [parts, List.forall_mem_singleton]
      exact .block _ _ _
  | circle shape =>
      rw [parts, List.forall_mem_singleton]
      exact .block _ _ _
  | arc shape =>
      rw [parts, List.forall_mem_singleton]
      exact .block _ _ _
  | ellipse shape => simp [parts]
  | polyline shape =>
      rw [parts, List.forall_mem_map]
      intro chain _
      exact .block _ _ _

/-- How many chains an entity consists of. -/
def Entity.chainCount : Entity → Nat
  | .polyline shape => shape.chains.length
  | .line _ | .circle _ | .arc _ | .ellipse _ => 0

/-- Lines, circles and arcs have one part each, and polylines one for every
chain. -/
theorem length_partsOf (entities : List Entity) :
    (partsOf entities).length =
      entities.countP (·.kind = .line)
        + entities.countP (·.kind = .circle)
        + entities.countP (·.kind = .arc)
        + (entities.map Entity.chainCount).sum := by
  induction entities with
  | nil => rfl
  | cons entity entities hypothesis =>
      rw [partsOf_cons, List.length_append, hypothesis]
      cases entity <;>
        simp [Entity.labelledParts, Entity.parts, Entity.kind,
          Entity.chainCount] <;>
        omega

/-! ## Blocks of parts -/

/-- The lines that a part of an entity gives in one state of the tool or
another. -/
structure IsWrittenPart
    (machine : MachineSettings)
    (part : Entity × List Call)
    (lines : List ProgramLine) :
    Prop where
  written :
    ∃ engaged,
      lines =
        liftAfterFirst machine engaged
          (Tool.initial.writeAll machine part.2)
  is_block : IsBlock part.1.label lines

/-- The texts of a part of an entity, without the empty one after them. -/
structure IsReadAs
    (machine : MachineSettings)
    (part : Entity × List Call)
    (texts : List String) :
    Prop where
  /-- The texts are those of the part on its own, perhaps with a lift after its
  remark. -/
  written :
    ∃ engaged,
      texts ++ [""] =
        (liftAfterFirst machine engaged
          (Tool.initial.writeAll machine part.2)).map ProgramLine.text
  remark : texts.head? = some ("(" ++ part.1.label ++ ")")
  no_empty : "" ∉ texts

section Writing

variable {machine : MachineSettings}

theorem IsWrittenPart.exists_texts
    {part : Entity × List Call}
    {lines : List ProgramLine}
    (isWritten : IsWrittenPart machine part lines) :
    ∃ texts,
      lines.map ProgramLine.text = texts ++ [""] ∧
        IsReadAs machine part texts := by
  rcases isWritten with ⟨⟨engaged, written⟩, middle, isLines, shown⟩
  have cut :
      lines.map ProgramLine.text =
        (commentText part.1.label :: middle.map ProgramLine.text)
          ++ [""] := by
    rw [isLines]
    simp [ProgramLine.text]
  refine ⟨_, cut, ⟨engaged, ?_⟩, rfl, ?_⟩
  · rw [← cut, written]
  · rw [List.mem_cons, not_or]
    constructor
    · simp [commentText]
    · intro empty
      rcases List.mem_map.mp empty with ⟨line, member, same⟩
      exact shown line member same

/-- The texts of several parts, each followed by an empty one. -/
theorem exists_texts_of_forall₂
    {parts : List (Entity × List Call)}
    {blocks : List (List ProgramLine)}
    (each : List.Forall₂ (IsWrittenPart machine) parts blocks) :
    ∃ texts,
      blocks.flatten.map ProgramLine.text = texts.flatMap (· ++ [""]) ∧
        List.Forall₂ (IsReadAs machine) parts texts := by
  induction each with
  | nil => exact ⟨[], rfl, .nil⟩
  | @cons part lines parts blocks isWritten _ hypothesis =>
      rcases isWritten.exists_texts with ⟨text, cut, isRead⟩
      rcases hypothesis with ⟨texts, further, areRead⟩
      refine ⟨text :: texts, ?_, .cons isRead areRead⟩
      rw [List.flatten_cons, List.map_append, cut, further,
        List.flatMap_cons]

theorem no_empty_of_forall₂
    {parts : List (Entity × List Call)}
    {blocks : List (List String)}
    (each : List.Forall₂ (IsReadAs machine) parts blocks) :
    ∀ block ∈ blocks, "" ∉ block := by
  induction each with
  | nil =>
      intro block member
      cases member
  | cons isRead _ hypothesis =>
      rw [List.forall_mem_cons]
      exact ⟨isRead.no_empty, hypothesis⟩

/-- Each part of an entity is written as a block of its own. -/
theorem forall₂_isWrittenPart
    (words : machine.HasWords)
    (entities : List Entity) :
    List.Forall₂ (IsWrittenPart machine) (partsOf entities)
      (Tool.initial.writeEach machine Prod.snd (partsOf entities)) := by
  apply Tool.forall₂_writeEach
  intro part member tool
  rcases List.mem_flatMap.mp member with ⟨entity, -, listed⟩
  rcases List.mem_map.mp listed with ⟨calls, own, isPart⟩
  subst isPart
  constructor
  case written =>
    exact ⟨tool.engaged,
      (entity.opening_of_mem_parts calls own).writeAll_eq machine tool⟩
  case is_block =>
    exact (entity.isBlockOfCalls_of_mem_parts calls own).writeAll words tool

theorem Settings.body_programOf_eq_flatten
    (settings : Settings)
    (entities : List Entity) :
    (settings.programOf entities).body =
      (Tool.initial.writeEach settings.machine Prod.snd
        (partsOf entities)).flatten := by
  rw [Tool.flatten_writeEach, flatMap_snd_partsOf]
  rfl

end Writing

/-! ## Labels -/

/-- What stands between the parentheses of a remark. -/
def remarkText (text : String) : String :=
  String.ofList text.toList.tail.dropLast

theorem remarkText_commentText (label : String) :
    remarkText ("(" ++ label ++ ")") = label := by
  simp [remarkText]

/-- How many blocks there are under a label: as many as it says, if it is that
of a polyline. -/
def announcedBlocks (label : String) : Nat :=
  if label.toList.head? = some 'P' then
    Nat.ofDigitChars 10 (label.toList.filter Char.isDigit) 0
  else 1

/-- The labels of entities, found among those of their blocks. -/
def entityLabels : List String → List String
  | [] => []
  | label :: labels =>
    label :: entityLabels (labels.drop (announcedBlocks label - 1))
termination_by labels => labels.length
decreasing_by
  rw [List.length_drop, List.length_cons]
  omega

/-- The labels of the entities that have been cut, read off the texts of a
body. -/
def cutLabels (texts : List String) : List String :=
  entityLabels
    ((texts.splitOn "").dropLast.map fun block =>
      remarkText (block.headD ""))

theorem announcedBlocks_of_head
    {label : String}
    {first : Char}
    (begins : label.toList.head? = some first)
    (other : first ≠ 'P') :
    announcedBlocks label = 1 := by
  rw [announcedBlocks, begins, if_neg]
  exact fun same => other (Option.some.inj same)

-- As for circles and arcs, rewriting with the definition itself would look into
-- the number.
theorem PolyLine.label_eq (polyline : PolyLine) :
    polyline.label =
      "Polyline consisting of " ++ toString polyline.chains.length
        ++ " segments." :=
  rfl

theorem PolyLine.toList_label (polyline : PolyLine) :
    polyline.label.toList =
      "Polyline consisting of ".toList
        ++ (Nat.toDigits 10 polyline.chains.length
          ++ " segments.".toList) := by
  rw [label_eq, String.toList_append, String.toList_append,
    Nat.toString_eq_repr, Nat.toList_repr, List.append_assoc]

/-- All digits in the label of a polyline belong to the number. -/
theorem PolyLine.filter_isDigit_label (polyline : PolyLine) :
    polyline.label.toList.filter Char.isDigit =
      Nat.toDigits 10 polyline.chains.length := by
  have before :
      "Polyline consisting of ".toList.filter Char.isDigit = [] := by
    decide
  have after : " segments.".toList.filter Char.isDigit = [] := by
    decide
  have between :
      (Nat.toDigits 10 polyline.chains.length).filter Char.isDigit =
        Nat.toDigits 10 polyline.chains.length := by
    rw [List.filter_eq_self]
    intro digit member
    exact Nat.isDigit_of_mem_toDigits (by decide) (by decide) member
  rw [toList_label, List.filter_append, List.filter_append, before, between,
    after, List.nil_append, List.append_nil]

theorem PolyLine.announcedBlocks_label (polyline : PolyLine) :
    announcedBlocks polyline.label = polyline.chains.length := by
  have begins : polyline.label.toList.head? = some 'P' := by
    rw [polyline.toList_label]
    rfl
  rw [announcedBlocks, if_pos begins, polyline.filter_isDigit_label]
  exact Nat.ofDigitChars_toDigits (by decide) (by decide)

/-- An entity that has any parts has as many as its label says. -/
theorem Entity.announcedBlocks_label
    {entity : Entity}
    (drawn : entity.contributes = true) :
    announcedBlocks entity.label = entity.parts.length := by
  cases entity with
  | line shape =>
      have begins : shape.label.toList.head? = some 'L' := by
        simp [Line.label]
      exact announcedBlocks_of_head begins (by decide)
  | circle shape =>
      have begins : shape.label.toList.head? = some 'C' := by
        simp [Circle.label_eq]
      exact announcedBlocks_of_head begins (by decide)
  | arc shape =>
      have begins : shape.label.toList.head? = some 'A' := by
        simp [Arc.label_eq]
      exact announcedBlocks_of_head begins (by decide)
  | ellipse shape => cases drawn
  | polyline shape =>
      rw [parts, List.length_map]
      exact shape.announcedBlocks_label

theorem Entity.parts_eq_nil_iff (entity : Entity) :
    entity.parts = [] ↔ entity.contributes = false := by
  rw [contributes_eq_false_iff]
  cases entity <;> simp [parts]

/-- Each label is found once, however many blocks there are under it. -/
theorem entityLabels_partsOf (entities : List Entity) :
    entityLabels ((partsOf entities).map (·.1.label)) =
      (entities.filter Entity.contributes).map Entity.label := by
  induction entities with
  | nil => simp [partsOf, entityLabels]
  | cons entity entities hypothesis =>
      have own :
          entity.labelledParts.map (·.1.label) =
            List.replicate entity.parts.length entity.label := by
        simp [Entity.labelledParts, Function.comp_def, List.map_const']
      rw [partsOf_cons, List.map_append, own]
      cases drawn : entity.contributes with
      | false =>
          have none := entity.parts_eq_nil_iff.mpr drawn
          simpa [none, drawn] using hypothesis
      | true =>
          have some : entity.parts.length ≠ 0 := by
            rw [Ne, List.length_eq_zero_iff, entity.parts_eq_nil_iff, drawn]
            exact Bool.true_eq_false_eq_False
          have announced := Entity.announcedBlocks_label drawn
          rcases Nat.exists_eq_succ_of_ne_zero some with ⟨further, count⟩
          rw [count, List.replicate_succ, List.cons_append, entityLabels,
            announced, count, Nat.succ_sub_one, List.drop_left'
              List.length_replicate, hypothesis]
          simp [drawn]

theorem map_remarkText_eq
    {machine : MachineSettings}
    {parts : List (Entity × List Call)}
    {blocks : List (List String)}
    (each : List.Forall₂ (IsReadAs machine) parts blocks) :
    (blocks.map fun block => remarkText (block.headD "")) =
      parts.map (·.1.label) := by
  induction each with
  | nil => rfl
  | @cons part block parts blocks isRead _ hypothesis =>
      rw [List.map_cons, List.map_cons, hypothesis,
        List.headD_eq_head?_getD, isRead.remark, Option.getD_some,
        remarkText_commentText]

/-! ## Bodies read back -/

/-- A program whose body is read back as the parts of the given entities. -/
structure Program.IsReadBack
    (program : Program)
    (machine : MachineSettings)
    (entities : List Entity) :
    Prop where
  /-- Cut after each empty text, the body falls into a block for each part, and
  nothing is left. -/
  blocks :
    ∃ blocks,
      (program.body.map ProgramLine.text).splitOn "" = blocks ++ [[]] ∧
        List.Forall₂ (IsReadAs machine) (partsOf entities) blocks
  /-- The text tells the labels of the entities that have been cut. -/
  labels :
    cutLabels (program.body.map ProgramLine.text) =
      (entities.filter Entity.contributes).map Entity.label

namespace Settings

variable {settings : Settings} (words : settings.machine.HasWords)

include words

theorem isReadBack_programOf (entities : List Entity) :
    (settings.programOf entities).IsReadBack settings.machine entities := by
  have body := settings.body_programOf_eq_flatten entities
  have each := forall₂_isWrittenPart words entities
  rcases exists_texts_of_forall₂ each with ⟨texts, isText, areRead⟩
  have uncut : texts.flatMap (·.splitOn "") = texts := by
    rw [flatMap_splitOn_eq_self_iff]
    exact no_empty_of_forall₂ areRead
  have cut :
      ((settings.programOf entities).body.map
          ProgramLine.text).splitOn "" =
        texts ++ [[]] := by
    rw [body, isText, splitOn_flatMap_concat, uncut]
  constructor
  case blocks => exact ⟨texts, cut, areRead⟩
  case labels =>
    rw [cutLabels, cut, List.dropLast_concat, map_remarkText_eq areRead,
      entityLabels_partsOf]

theorem countEmpty_body_programOf (entities : List Entity) :
    countEmpty (settings.programOf entities).body =
      (partsOf entities).length := by
  have each := forall₂_isWrittenPart words entities
  have blocks :
      List.Forall₂ (fun part lines => IsBlock (Prod.fst part).label lines)
        (partsOf entities)
        (Tool.initial.writeEach settings.machine Prod.snd
          (partsOf entities)) :=
    each.imp fun _ _ isWritten => isWritten.is_block
  rw [settings.body_programOf_eq_flatten, countEmpty_flatten blocks]

end Settings

theorem length_partsOf_of_perm
    {entities other : List Entity}
    (same : other.Perm entities) :
    (partsOf other).length = (partsOf entities).length := by
  rw [length_partsOf, length_partsOf, same.countP_eq, same.countP_eq,
    same.countP_eq, (same.map Entity.chainCount).sum_nat]

/--
The body of a compiled program is read back as the parts of the entities of the
drawing, in the order in which these are carried out.  It has one empty line for
each line, circle and arc of the drawing and one for each chain of a polyline.
-/
theorem compile_read_back
    (valid : ValidSettings)
    (entities : List Entity)
    (program : Program)
    (compiled : valid.compile entities = .ok program) :
    program.IsReadBack valid.settings.machine
        (valid.settings.arrange entities) ∧
      countEmpty program.body =
        entities.countP (·.kind = .line)
          + entities.countP (·.kind = .circle)
          + entities.countP (·.kind = .arc)
          + (entities.map Entity.chainCount).sum := by
  rcases ValidSettings.compile_eq_ok_iff.mp compiled with ⟨-, isProgram⟩
  subst isProgram
  constructor
  · exact Settings.isReadBack_programOf valid.hasWords _
  · rw [Settings.countEmpty_body_programOf valid.hasWords,
      length_partsOf_of_perm (valid.settings.arrange_perm entities),
      length_partsOf]

/-- Three lines, a circle, an arc and two chains give seven blocks, which belong
to six entities. -/
theorem sample_read_back :
    ∃ program,
      Sample.settings.compile Sample.drawing = .ok program ∧
        countEmpty program.body = 7 ∧
        cutLabels (program.body.map ProgramLine.text) =
          [ Sample.line.label, Sample.circle.label, Sample.line.label,
            Sample.polyline.label, Sample.arc.label, Sample.line.label ] := by
  rcases compile_read_back Sample.settings Sample.drawing _ rfl with
    ⟨isReadBack, counted⟩
  exact ⟨_, rfl, counted, isReadBack.labels⟩

end Toolpath
