import Mathlib
import Toolpath.Proofs.Reordering
import Toolpath.Proofs.SessionAccount

/-!
# Line breaks

A program is written out as one text, with a line break after every line, and
whoever reads it cuts the text at its line breaks.  This module proves when that
gives the lines back.

Labels and numbers are made of characters that neither end a line nor close a
remark.  So a line can only be broken by a word for the tool, which may be any
text.  Each word that is written has to be free of line breaks: the one for
lifting always is written, the one for engaging only if the body engages the
tool.
-/

namespace Toolpath

open Number (fixedText fixedCharacters)

/-! ## Texts that stay on their line -/

/-- A text without a line break. -/
def IsUnbroken (text : String) : Prop := '\n' ∉ text.toList

/-- A text that can stand in a remark: it neither ends the line nor opens or
closes parentheses. -/
def IsInline (text : String) : Prop :=
  ∀ character ∈ text.toList,
    character ≠ '(' ∧ character ≠ ')' ∧ character ≠ '\n'

theorem isUnbroken_append {first second : String} :
    IsUnbroken (first ++ second) ↔ IsUnbroken first ∧ IsUnbroken second := by
  simp [IsUnbroken, not_or]

theorem isInline_append {first second : String} :
    IsInline (first ++ second) ↔ IsInline first ∧ IsInline second := by
  rw [IsInline, String.toList_append, List.forall_mem_append]
  rfl

theorem IsInline.isUnbroken {text : String} (inside : IsInline text) :
    IsUnbroken text :=
  fun broken => (inside '\n' broken).2.2 rfl

@[simp]
theorem isInline_fixedText (value : Float) : IsInline (fixedText value) := by
  intro character member
  rw [fixedText, String.toList_ofList] at member
  have known := Number.isNumberCharacter_of_mem_fixedCharacters member
  refine ⟨?_, ?_, ?_⟩
  all_goals
    rintro rfl
    simp [Number.isNumberCharacter] at known

theorem isInline_toString (number : Nat) : IsInline (toString number) := by
  intro character member
  have digit : character.isDigit = true := by
    rw [Nat.toString_eq_repr, Nat.toList_repr] at member
    exact Nat.isDigit_of_mem_toDigits (by decide) (by decide) member
  refine ⟨?_, ?_, ?_⟩
  all_goals
    rintro rfl
    simp at digit

@[simp]
theorem isInline_pointText (point : Point) : IsInline point.text := by
  simp only [Point.text, isInline_append, isInline_fixedText, and_true]
  simp [IsInline]

-- Rewriting with the definitions themselves would look into the numbers.
theorem Circle.label_eq (circle : Circle) :
    circle.label =
      "Circle at [" ++ fixedText circle.center.x ++ ","
        ++ fixedText circle.center.y ++ "], radius "
        ++ fixedText circle.radius :=
  rfl

theorem Arc.label_eq (arc : Arc) :
    arc.label =
      "Arc at " ++ arc.center.text ++ ", radius " ++ fixedText arc.radius
        ++ ", from " ++ fixedText arc.startAngle
        ++ " to " ++ fixedText arc.endAngle :=
  rfl

theorem Ellipse.label_eq (ellipse : Ellipse) :
    ellipse.label =
      "Ellipse at " ++ ellipse.center.text
        ++ ", major " ++ ellipse.major.text
        ++ ", minor/major " ++ fixedText ellipse.minorToMajor
        ++ " start " ++ fixedText ellipse.startParameter
        ++ " end " ++ fixedText ellipse.endParameter :=
  rfl

theorem Line.isInline_label (line : Line) : IsInline line.label := by
  simp only [Line.label, isInline_append, isInline_pointText, and_true]
  simp [IsInline]

theorem Circle.isInline_label (circle : Circle) : IsInline circle.label := by
  simp only [Circle.label_eq, isInline_append, isInline_fixedText, and_true]
  simp [IsInline]

theorem Arc.isInline_label (arc : Arc) : IsInline arc.label := by
  simp only [Arc.label_eq, isInline_append, isInline_pointText,
    isInline_fixedText, and_true]
  simp [IsInline]

theorem Ellipse.isInline_label (ellipse : Ellipse) :
    IsInline ellipse.label := by
  simp only [Ellipse.label_eq, isInline_append, isInline_pointText,
    isInline_fixedText, and_true]
  simp [IsInline]

theorem PolyLine.isInline_label (polyline : PolyLine) :
    IsInline polyline.label := by
  have counted := isInline_toString polyline.chains.length
  refine isInline_append.mpr ⟨isInline_append.mpr ⟨?_, counted⟩, ?_⟩ <;>
    simp [IsInline]

/-- No label closes the remark that it is put into, whatever the entity and its
numbers. -/
theorem Entity.isInline_label : ∀ entity : Entity, IsInline entity.label
  | line shape => shape.isInline_label
  | circle shape => shape.isInline_label
  | arc shape => shape.isInline_label
  | ellipse shape => shape.isInline_label
  | polyline shape => shape.isInline_label

/-! ## What lines take from elsewhere -/

/-- What a line takes from elsewhere does not break it, unless it is a word of
the machine. -/
def ProgramLine.IsOrderly (machine : MachineSettings) : ProgramLine → Prop
  | .comment text | .code text => IsUnbroken text
  | .spindleOn word => word = machine.spindleOn
  | .spindleOff word => word = machine.spindleOff
  | .blank | .rapid _ | .cut _ _ | .arc _ _ _ | .circle _ _ | .dwell _ => True

section Orderly

variable {machine : MachineSettings}

/-- A line that does not switch the tool is not broken. -/
theorem ProgramLine.IsOrderly.isUnbroken_text
    {line : ProgramLine}
    (orderly : line.IsOrderly machine)
    (steady : line.toolUse.isToggle = false) :
    IsUnbroken line.text := by
  have written {text : String} (inside : IsInline text) := inside.isUnbroken
  cases line with
  | comment text =>
      simp only [ProgramLine.text, commentText, isUnbroken_append]
      refine ⟨⟨?_, orderly⟩, ?_⟩ <;> simp [IsUnbroken]
  | code text => exact orderly
  | blank => simp [text, IsUnbroken]
  | rapid target =>
      apply written
      simp only [text, isInline_append, isInline_fixedText, and_true]
      simp [IsInline]
  | cut target feed =>
      apply written
      simp only [text, isInline_append, isInline_fixedText, and_true]
      simp [IsInline]
  | arc target offset feed =>
      apply written
      simp only [text, arcText_eq, isInline_append, isInline_fixedText,
        and_true]
      simp [IsInline]
  | circle radius feed =>
      apply written
      simp only [text, circleText, isInline_append, isInline_fixedText,
        and_true]
      simp [IsInline]
  | dwell milliseconds =>
      apply written
      have counted := isInline_toString milliseconds.toNat
      refine isInline_append.mpr ⟨?_, counted⟩
      simp [IsInline]
  | spindleOn word => cases steady
  | spindleOff word => cases steady

/-- Every line of a call is orderly, if what the call says is not broken. -/
theorem Call.isOrderly_of_mem_lines
    {call : Call}
    (remarks : ∀ text, call = .comment text → IsUnbroken text)
    (codes : ∀ text, call ≠ .code text) :
    ∀ line ∈ call.lines machine, line.IsOrderly machine := by
  have waits (milliseconds : UInt32) :
      ∀ line ∈ dwellLines milliseconds, line.IsOrderly machine := by
    simp [dwellLines, ProgramLine.IsOrderly]
  cases call with
  | comment text =>
      rw [lines, List.forall_mem_singleton]
      exact remarks text rfl
  | code text => exact (codes text rfl).elim
  | start =>
      rw [lines, MachineSettings.engageLines, List.forall_mem_cons]
      exact ⟨rfl, waits machine.startDelay⟩
  | stop =>
      rw [lines, MachineSettings.liftLines, List.forall_mem_cons]
      exact ⟨rfl, waits machine.stopDelay⟩
  | separator => simp [lines, ProgramLine.IsOrderly]
  | go target => simp [lines, ProgramLine.IsOrderly]
  | draw target => simp [lines, ProgramLine.IsOrderly]
  | arc target offset => simp [lines, ProgramLine.IsOrderly]
  | circle radius => simp [lines, ProgramLine.IsOrderly]
  | setPosition position => simp [lines]

end Orderly

/-! ## The remarks of a body -/

/-- The remarks of an entity are its label. -/
theorem Entity.eq_label_of_mem_calls
    {entity : Entity}
    {text : String}
    (member : .comment text ∈ entity.calls) :
    text = entity.label := by
  cases entity with
  | line shape => simpa [Line.calls, label] using member
  | circle shape => simpa [Circle.calls, label] using member
  | arc shape => simpa [Arc.calls, label] using member
  | ellipse shape => cases member
  | polyline shape =>
      have said :
          ∃ chain ∈ shape.chains, text = shape.label := by
        simpa [PolyLine.calls, Chain.calls, drawThrough] using member
      rcases said with ⟨chain, -, same⟩
      exact same

/-- A remark is written only where a call makes it. -/
theorem Tool.comment_mem_calls
    {machine : MachineSettings}
    {tool : Tool}
    {calls : List Call}
    {text : String}
    (member : .comment text ∈ tool.writeAll machine calls) :
    .comment text ∈ calls := by
  rcases exists_call_of_mem_writeAll member with ⟨call, told, written⟩
  have same : call = .comment text := by
    cases call with
    | comment other =>
        rw [ProgramLine.comment.inj (List.mem_singleton.mp written)]
    | start =>
        simp [Call.lines, MachineSettings.engageLines, dwellLines] at written
    | stop =>
        simp [Call.lines, MachineSettings.liftLines, dwellLines] at written
    | _ => simp [Call.lines] at written
  rw [same] at told
  rcases told with said | start | stop
  · exact said
  · cases start
  · cases stop

theorem exists_entity_of_comment
    {entities : List Entity}
    {text : String}
    (member : .comment text ∈ callsOf entities) :
    ∃ entity ∈ entities, text = entity.label := by
  rcases List.mem_flatMap.mp member with ⟨entity, drawn, said⟩
  exact ⟨entity, drawn, entity.eq_label_of_mem_calls said⟩

namespace Settings

variable (settings : Settings) (entities : List Entity)

theorem isOrderly_of_mem_body :
    ∀ line ∈ (settings.programOf entities).body,
      line.IsOrderly settings.machine := by
  intro line member
  rcases Tool.exists_call_of_mem_writeAll member with ⟨call, told, written⟩
  refine Call.isOrderly_of_mem_lines ?_ ?_ line written
  · rintro text rfl
    rcases told with said | impossible | impossible
    · rcases exists_entity_of_comment said with ⟨entity, -, rfl⟩
      exact entity.isInline_label.isUnbroken
    · cases impossible
    · cases impossible
  · rintro text rfl
    rcases told with said | impossible | impossible
    · exact code_notMem_callsOf entities text said
    · cases impossible
    · cases impossible

theorem isOrderly_of_mem_preamble :
    ∀ line ∈ settings.preamble, line.IsOrderly settings.machine := by
  cases units : settings.output.units <;>
    simp [preamble, units, ProgramLine.IsOrderly, IsUnbroken, releaseName,
      MeasurementSystem.code]

theorem isOrderly_of_mem_postscript :
    ∀ line ∈ settings.postscript, line.IsOrderly settings.machine := by
  cases home : settings.output.home <;>
    simp [postscript, home, ProgramLine.IsOrderly, IsUnbroken]

theorem isOrderly_of_mem_lines :
    ∀ line ∈ (settings.programOf entities).lines,
      line.IsOrderly settings.machine := by
  rw [Program.lines, List.forall_mem_append, List.forall_mem_append]
  exact ⟨⟨settings.isOrderly_of_mem_preamble,
    settings.isOrderly_of_mem_body entities⟩,
    settings.isOrderly_of_mem_postscript⟩

end Settings

/-! ## Cutting a text at its line breaks -/

/-- The lines of a text, which is cut at each of its line breaks.  What follows
the last of them is left out if there is nothing. -/
def cutLines (text : String) : List String :=
  let pieces := text.toList.splitOn '\n'
  (if pieces.getLast? = some [] then pieces.dropLast else pieces).map
    String.ofList

section Cutting

variable {Item : Type} [DecidableEq Item]

/-- A mark is in none of the pieces that are cut at it. -/
theorem notMem_of_mem_splitOn
    {mark : Item}
    {items piece : List Item}
    (member : piece ∈ items.splitOn mark) :
    mark ∉ piece := by
  induction items generalizing piece with
  | nil =>
      rw [List.splitOn_nil, List.mem_singleton] at member
      subst member
      exact List.not_mem_nil
  | cons item items hypothesis =>
      obtain ⟨first, further, pieces⟩ :=
        List.exists_cons_of_ne_nil (List.splitOn_ne_nil mark items)
      rw [pieces] at hypothesis
      rw [List.splitOn_cons_eq_if_modifyHead, pieces] at member
      split at member
      next =>
        rcases List.mem_cons.mp member with rfl | later
        · exact List.not_mem_nil
        · exact hypothesis later
      next different =>
        rcases List.mem_cons.mp member with rfl | later
        · rw [List.mem_cons, not_or]
          refine ⟨?_, hypothesis List.mem_cons_self⟩
          rintro rfl
          exact different (beq_self_eq_true mark)
        · exact hypothesis (List.mem_cons_of_mem first later)

/-- Parts that each have a mark after them are cut one by one. -/
theorem splitOn_flatMap_concat (mark : Item) (parts : List (List Item)) :
    (parts.flatMap (· ++ [mark])).splitOn mark =
      parts.flatMap (·.splitOn mark) ++ [[]] := by
  induction parts with
  | nil => rfl
  | cons part parts hypothesis =>
      rw [List.flatMap_cons, List.append_assoc, List.singleton_append,
        List.splitOn_append_cons_self, hypothesis, List.flatMap_cons,
        List.append_assoc]

/-- Cutting changes nothing exactly if no part holds the mark. -/
theorem flatMap_splitOn_eq_self_iff
    {mark : Item}
    {parts : List (List Item)} :
    parts.flatMap (·.splitOn mark) = parts ↔ ∀ part ∈ parts, mark ∉ part := by
  constructor
  · intro uncut part member
    rw [← uncut] at member
    obtain ⟨whole, -, piece⟩ := List.mem_flatMap.mp member
    exact notMem_of_mem_splitOn piece
  · intro absent
    induction parts with
    | nil => rfl
    | cons part parts hypothesis =>
        rw [List.forall_mem_cons] at absent
        rw [List.flatMap_cons, List.splitOn_eq_singleton absent.1,
          hypothesis absent.2, List.singleton_append]

end Cutting

namespace Program

theorem toList_gcode (program : Program) :
    program.gcode.toList =
      (program.lines.map (·.text.toList)).flatMap (· ++ ['\n']) := by
  rw [gcode, String.toList_join, List.flatMap_map, List.flatMap_map]
  simp

/-- The text of a program is cut back into its lines exactly if none of them is
broken. -/
theorem cutLines_gcode_eq_iff (program : Program) :
    cutLines program.gcode = program.lines.map ProgramLine.text ↔
      ∀ line ∈ program.lines, IsUnbroken line.text := by
  have texts :
      program.lines.map ProgramLine.text =
        (program.lines.map (·.text.toList)).map String.ofList := by
    simp
  -- The line break after the last line leaves one empty piece, which is left
  -- out again.
  rw [cutLines, toList_gcode, splitOn_flatMap_concat]
  simp only [List.getLast?_concat, if_true, List.dropLast_concat]
  rw [texts, List.map_inj_right (fun _ _ => String.ofList_inj.mp),
    flatMap_splitOn_eq_self_iff, List.forall_mem_map]
  rfl

theorem utf8ByteSize_gcode (program : Program) :
    program.gcode.utf8ByteSize =
      (program.lines.map fun line => line.text.utf8ByteSize + 1).sum := by
  rw [gcode]
  generalize program.lines = lines
  induction lines with
  | nil => rfl
  | cons line lines hypothesis =>
      rw [List.map_cons, String.join_cons, String.utf8ByteSize_append,
        hypothesis, String.utf8ByteSize_append, List.map_cons,
        List.sum_cons]
      rfl

end Program

/-! ## Whole programs -/

/-- A program whose text stands for its lines, as far as the words of a machine
allow, and in which the remarks of entities stay remarks. -/
structure Program.IsFaithful
    (program : Program)
    (machine : MachineSettings)
    (entities : List Entity) :
    Prop where
  /-- A line is broken only if it is a word for the tool. -/
  unbroken :
    ∀ line ∈ program.lines,
      line.toolUse ≠ .engage → line.toolUse ≠ .lift → IsUnbroken line.text
  engaging :
    ∀ line ∈ program.lines,
      line.toolUse = .engage → line.text = machine.spindleOn
  lifting :
    ∀ line ∈ program.lines,
      line.toolUse = .lift → line.text = machine.spindleOff
  /-- The remarks of a body are labels of its entities. -/
  remarks :
    ∀ text, .comment text ∈ program.body →
      ∃ entity ∈ entities,
        (ProgramLine.comment text).text = "(" ++ entity.label ++ ")"
  /-- Among the lines of an entity all remarks are its label. -/
  remarks_of_entity :
    ∀ entity ∈ entities, ∀ (tool : Tool) (text : String),
      .comment text ∈ tool.writeAll machine entity.calls →
        (ProgramLine.comment text).text = "(" ++ entity.label ++ ")"
  /-- No label closes or breaks the remark that it is put into. -/
  labels_inline : ∀ entity : Entity, IsInline entity.label
  /-- The text is cut back into its lines exactly if the words that are written
  hold no line break. -/
  cut_back :
    cutLines program.gcode = program.lines.map ProgramLine.text ↔
      IsUnbroken machine.spindleOff ∧
        ((∃ line ∈ program.body, line.toolUse = .engage) →
          IsUnbroken machine.spindleOn)
  /-- Every line takes its own bytes and one more. -/
  byte_length :
    program.gcode.utf8ByteSize =
      (program.lines.map fun line => line.text.utf8ByteSize + 1).sum

namespace ProgramLine.IsOrderly

variable {machine : MachineSettings} {line : ProgramLine}

theorem text_of_engage
    (orderly : line.IsOrderly machine)
    (engages : line.toolUse = .engage) :
    line.text = machine.spindleOn := by
  cases line with
  | spindleOn word => exact orderly
  | _ => cases engages

theorem text_of_lift
    (orderly : line.IsOrderly machine)
    (lifts : line.toolUse = .lift) :
    line.text = machine.spindleOff := by
  cases line with
  | spindleOff word => exact orderly
  | _ => cases lifts

end ProgramLine.IsOrderly

theorem ToolUse.isToggle_eq_false_iff {use : ToolUse} :
    use.isToggle = false ↔ use ≠ .engage ∧ use ≠ .lift := by
  cases use <;> simp [isToggle]

namespace Settings

variable (settings : Settings) (entities : List Entity)

/-- The postscript always writes the word that lifts the tool. -/
theorem spindleOff_mem_lines :
    .spindleOff settings.machine.spindleOff ∈
      (settings.programOf entities).lines := by
  simp [Program.lines, programOf, postscript]

/-- The tool is engaged nowhere but in the body. -/
theorem mem_body_of_engage
    {line : ProgramLine}
    (member : line ∈ (settings.programOf entities).lines)
    (engages : line.toolUse = .engage) :
    line ∈ (settings.programOf entities).body := by
  rw [Program.lines, List.mem_append, List.mem_append] at member
  rcases member with (before | inside) | after
  · simp only [preamble_programOf, preamble, List.mem_cons,
      List.not_mem_nil, or_false] at before
    rcases before with rfl | rfl | rfl | rfl <;> cases engages
  · exact inside
  · cases home : settings.output.home <;>
      simp only [programOf, postscript, home, List.mem_append, List.mem_cons,
        List.not_mem_nil, or_false] at after
    · rcases after with (rfl | rfl | rfl) | rfl <;> cases engages
    · rcases after with ((rfl | rfl | rfl) | rfl) | rfl <;> cases engages

/-- No line is broken exactly if no word is that is written. -/
theorem forall_isUnbroken_iff :
    (∀ line ∈ (settings.programOf entities).lines, IsUnbroken line.text) ↔
      IsUnbroken settings.machine.spindleOff ∧
        ((∃ line ∈ (settings.programOf entities).body,
            line.toolUse = .engage) →
          IsUnbroken settings.machine.spindleOn) := by
  have orderly := settings.isOrderly_of_mem_lines entities
  constructor
  · intro unbroken
    refine ⟨unbroken _ (settings.spindleOff_mem_lines entities), ?_⟩
    rintro ⟨line, inside, engages⟩
    have member : line ∈ (settings.programOf entities).lines := by
      simp [Program.lines, inside]
    rw [← (orderly line member).text_of_engage engages]
    exact unbroken line member
  · rintro ⟨off, on⟩ line member
    -- Only a switch of the tool writes a text that the settings give.
    by_cases engages : line.toolUse = .engage
    · rw [(orderly line member).text_of_engage engages]
      exact on
        ⟨line, settings.mem_body_of_engage entities member engages, engages⟩
    by_cases lifts : line.toolUse = .lift
    · rw [(orderly line member).text_of_lift lifts]
      exact off
    · have steady := ToolUse.isToggle_eq_false_iff.mpr ⟨engages, lifts⟩
      exact (orderly line member).isUnbroken_text steady

end Settings

/-- The text of every program that is compiled under valid settings stands for
its lines, as far as the two words for the tool allow. -/
theorem compile_faithful
    (valid : ValidSettings)
    (entities : List Entity)
    (program : Program)
    (compiled : valid.compile entities = .ok program) :
    program.IsFaithful valid.settings.machine entities := by
  obtain ⟨-, rfl⟩ := ValidSettings.compile_eq_ok_iff.mp compiled
  have arranged := valid.settings.arrange_perm entities
  generalize valid.settings.arrange entities = drawn at arranged ⊢
  have orderly := valid.settings.isOrderly_of_mem_lines drawn
  constructor
  case unbroken =>
    intro line member engages lifts
    have steady := ToolUse.isToggle_eq_false_iff.mpr ⟨engages, lifts⟩
    exact (orderly line member).isUnbroken_text steady
  case engaging =>
    intro line member
    exact (orderly line member).text_of_engage
  case lifting =>
    intro line member
    exact (orderly line member).text_of_lift
  case remarks =>
    intro text member
    obtain ⟨entity, listed, rfl⟩ :=
      exists_entity_of_comment (Tool.comment_mem_calls member)
    exact ⟨entity, arranged.mem_iff.mp listed, rfl⟩
  case remarks_of_entity =>
    intro entity _ tool text member
    rw [entity.eq_label_of_mem_calls (Tool.comment_mem_calls member)]
    rfl
  case labels_inline => exact Entity.isInline_label
  case cut_back =>
    rw [Program.cutLines_gcode_eq_iff]
    exact valid.settings.forall_isUnbroken_iff drawn
  case byte_length => exact Program.utf8ByteSize_gcode _

/-- A drawing with a shape of every kind. -/
theorem sample_faithful :
    ∃ program,
      Sample.settings.compile Sample.drawing = .ok program ∧
        program.IsFaithful Sample.settings.settings.machine
          Sample.drawing :=
  ⟨_, rfl, compile_faithful Sample.settings Sample.drawing _ rfl⟩

end Toolpath
