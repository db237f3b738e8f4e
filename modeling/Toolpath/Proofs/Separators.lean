import Toolpath.Proofs.Blocks
import Toolpath.Proofs.StoredSettings

/-!
# Separators

A block ends with an empty line.  That line can be told from all others: no
other line of a block is empty, since remarks stand in parentheses, moves and
waits begin with a code, and the two words for the tool have been validated to
show something.  So the empty lines of a program count its blocks.

The facts are proved for any sequence of blocks, of which an entity gives one
for every chain if it is a polyline, and one otherwise.
-/

namespace Toolpath

/-! ## Blocks of calls and of lines -/

/-- Whether every line that a call writes shows something, as far as the call
decides it. -/
def Call.isShown : Call → Bool
  | .separator | .code _ => false
  | .comment _ | .go _ | .draw _ | .arc _ _ | .circle _ | .start | .stop
  | .setPosition _ => true

/-- Calls that begin with a remark on the given label, end with a separator, and
hold no other separator. -/
def IsBlockOfCalls (label : String) (calls : List Call) : Prop :=
  ∃ middle, calls = .comment label :: (middle ++ [.separator]) ∧
    ∀ call ∈ middle, call.isShown = true

/-- Lines that begin with a remark on the given label, end with an empty line,
and hold no other empty line. -/
def IsBlock (label : String) (lines : List ProgramLine) : Prop :=
  ∃ middle, lines = .comment label :: (middle ++ [.blank]) ∧
    ∀ line ∈ middle, line.text ≠ ""

/-- The number of empty lines. -/
def countEmpty (lines : List ProgramLine) : Nat :=
  lines.countP (·.text = "")

theorem countEmpty_append (first second : List ProgramLine) :
    countEmpty (first ++ second) = countEmpty first + countEmpty second :=
  List.countP_append

theorem IsBlock.countEmpty_eq
    {label : String}
    {lines : List ProgramLine}
    (block : IsBlock label lines) :
    countEmpty lines = 1 := by
  rcases block with ⟨middle, isLines, shown⟩
  subst isLines
  have inside : countEmpty middle = 0 := by
    rw [countEmpty, List.countP_eq_zero]
    intro line member
    rw [decide_eq_true_iff]
    exact shown line member
  rw [← List.singleton_append, countEmpty_append, countEmpty_append, inside]
  simp [countEmpty, ProgramLine.text, commentText]

/-- Lines that are made of blocks hold as many empty lines as blocks. -/
theorem countEmpty_flatten
    {Part : Type}
    {label : Part → String}
    {parts : List Part}
    {blocks : List (List ProgramLine)}
    (each :
      List.Forall₂ (fun part block => IsBlock (label part) block)
        parts blocks) :
    countEmpty blocks.flatten = parts.length := by
  induction each with
  | nil => rfl
  | cons block _ hypothesis =>
      rw [List.flatten_cons, countEmpty_append, block.countEmpty_eq,
        hypothesis, List.length_cons, Nat.add_comm]

/-! ## From calls to lines -/

/-- Whether both words for the tool show something. -/
structure MachineSettings.HasWords (machine : MachineSettings) : Prop where
  on_shown : machine.spindleOn ≠ ""
  off_shown : machine.spindleOff ≠ ""

theorem ne_empty_of_isAllBlank
    {word : String}
    (shown : Text.isAllBlank word = false) :
    word ≠ "" := by
  intro empty
  subst empty
  cases shown

/-- The words of valid settings have been looked at. -/
theorem ValidSettings.hasWords (valid : ValidSettings) :
    valid.settings.machine.HasWords := by
  have sound := Settings.fault?_eq_none_iff.mp valid.faultless
  constructor
  · exact ne_empty_of_isAllBlank sound.2.1
  · exact ne_empty_of_isAllBlank sound.2.2.1

section Writing

variable {machine : MachineSettings} (words : machine.HasWords) (tool : Tool)

include words

/-- No line of a call is empty, unless the call asks for an empty line or says
itself what to write. -/
theorem Tool.text_ne_of_mem_write
    {call : Call}
    (shown : call.isShown = true) :
    ∀ line ∈ tool.write machine call, line.text ≠ "" := by
  have dwells (milliseconds : UInt32) :
      ∀ line ∈ dwellLines milliseconds, line.text ≠ "" := by
    simp [dwellLines, ProgramLine.text]
  have engages : ∀ line ∈ machine.engageLines, line.text ≠ "" := by
    rw [MachineSettings.engageLines, List.forall_mem_cons]
    exact ⟨words.on_shown, dwells machine.startDelay⟩
  have lifts : ∀ line ∈ machine.liftLines, line.text ≠ "" := by
    rw [MachineSettings.liftLines, List.forall_mem_cons]
    exact ⟨words.off_shown, dwells machine.stopDelay⟩
  cases call with
  | go target =>
      rw [write, List.forall_mem_append]
      constructor
      · split
        · exact lifts
        · simp
      · simp [ProgramLine.text]
  | draw target =>
      rw [write, List.forall_mem_append]
      constructor
      · split
        · simp
        · exact engages
      · simp [ProgramLine.text]
  | start => exact engages
  | stop => exact lifts
  | comment text => simp [write, ProgramLine.text, commentText]
  | arc target offset => simp [write, ProgramLine.text, arcText]
  | circle radius => simp [write, ProgramLine.text, circleText]
  | setPosition position => simp [write]
  | separator => cases shown
  | code text => cases shown

theorem Tool.text_ne_of_mem_writeAll
    {calls : List Call}
    (shown : ∀ call ∈ calls, call.isShown = true) :
    ∀ line ∈ tool.writeAll machine calls, line.text ≠ "" := by
  induction calls generalizing tool with
  | nil => simp [writeAll]
  | cons call calls hypothesis =>
      rw [List.forall_mem_cons] at shown
      rw [writeAll, List.forall_mem_append]
      constructor
      · exact tool.text_ne_of_mem_write words shown.1
      · exact hypothesis (tool.after call) shown.2

/-- Blocks of calls are written as blocks, in whatever state they find the
tool. -/
theorem IsBlockOfCalls.writeAll
    {label : String}
    {calls : List Call}
    (block : IsBlockOfCalls label calls) :
    IsBlock label (tool.writeAll machine calls) := by
  rcases block with ⟨middle, isCalls, shown⟩
  subst isCalls
  refine ⟨tool.writeAll machine middle, ?_,
    tool.text_ne_of_mem_writeAll words shown⟩
  rw [Tool.writeAll, Tool.writeAll_append]
  rfl

end Writing

/-! ## Blocks one after the other -/

section Parts

variable {Part : Type} {machine : MachineSettings}
  {callsOfPart : Part → List Call}

/-- What the calls of each of several parts add to the program. -/
def Tool.writeEach
    (machine : MachineSettings)
    (callsOfPart : Part → List Call)
    (tool : Tool) :
    List Part → List (List ProgramLine)
  | [] => []
  | part :: parts =>
    tool.writeAll machine (callsOfPart part)
      :: (tool.afterAll (callsOfPart part)).writeEach machine callsOfPart
        parts

theorem Tool.flatten_writeEach
    (tool : Tool)
    (parts : List Part) :
    (tool.writeEach machine callsOfPart parts).flatten =
      tool.writeAll machine (parts.flatMap callsOfPart) := by
  induction parts generalizing tool with
  | nil => rfl
  | cons part parts hypothesis =>
      rw [writeEach, List.flatten_cons, List.flatMap_cons, hypothesis,
        writeAll_append]

/-- What holds of the lines of a part, in whatever state its calls find the
tool, holds of the lines of each of several parts. -/
theorem Tool.forall₂_writeEach
    {related : Part → List ProgramLine → Prop}
    {parts : List Part}
    (writes :
      ∀ part ∈ parts, ∀ tool : Tool,
        related part (tool.writeAll machine (callsOfPart part)))
    (tool : Tool) :
    List.Forall₂ related parts
      (tool.writeEach machine callsOfPart parts) := by
  induction parts generalizing tool with
  | nil => exact .nil
  | cons part parts hypothesis =>
      rw [List.forall_mem_cons] at writes
      constructor
      · exact writes.1 tool
      · exact hypothesis writes.2 (tool.afterAll (callsOfPart part))

end Parts

/-! ## Blocks of entities -/

theorem isShown_of_mem_drawThrough (points : List Point) :
    ∀ call ∈ drawThrough points, call.isShown = true := by
  rw [drawThrough, List.forall_mem_flatMap]
  intro point _
  rw [List.forall_mem_cons, List.forall_mem_singleton]
  exact ⟨rfl, rfl⟩

theorem Chain.isBlockOfCalls
    (chain : Chain)
    (label : String) :
    IsBlockOfCalls label (chain.calls label) := by
  refine ⟨.go chain.first :: .start
      :: (drawThrough chain.further ++ [.stop]), ?_, ?_⟩
  · simp [Chain.calls]
  · simp only [List.forall_mem_cons, List.forall_mem_append]
    exact ⟨rfl, rfl, isShown_of_mem_drawThrough _, rfl, by simp⟩

/-- The calls of an entity, one run for every block. -/
def Entity.parts : Entity → List (List Call)
  | .line shape => [shape.calls]
  | .circle shape => [shape.calls]
  | .arc shape => [shape.calls]
  | .ellipse _ => []
  | .polyline shape => shape.chains.map (Chain.calls shape.label)

theorem Entity.flatten_parts (entity : Entity) :
    entity.parts.flatten = entity.calls := by
  cases entity with
  | line shape => exact List.flatten_singleton
  | circle shape => exact List.flatten_singleton
  | arc shape => exact List.flatten_singleton
  | ellipse shape => rfl
  | polyline shape => exact List.flatMap_def.symm

theorem Entity.isBlockOfCalls_of_mem_parts (entity : Entity) :
    ∀ calls ∈ entity.parts, IsBlockOfCalls entity.label calls := by
  cases entity with
  | line shape =>
      rw [parts, List.forall_mem_singleton]
      exact ⟨[.go shape.start, .draw shape.finish], rfl, by
        simp [Call.isShown]⟩
  | circle shape =>
      rw [parts, List.forall_mem_singleton]
      exact ⟨[.go shape.start, .start, .circle shape.radius, .stop], rfl, by
        simp [Call.isShown]⟩
  | arc shape =>
      rw [parts, List.forall_mem_singleton]
      exact ⟨[.go (shape.pointAt 0.0), .setPosition (shape.pointAt 1.0),
        .start, .arc (shape.pointAt 1.0) _, .stop], rfl, by
        simp [Call.isShown]⟩
  | ellipse shape => simp [parts]
  | polyline shape =>
      rw [parts, List.forall_mem_map]
      intro chain _
      exact chain.isBlockOfCalls shape.label

/-- An entity in one part is written as one block. -/
theorem Entity.isBlockOfCalls
    {entity : Entity}
    (single : entity.parts.length = 1) :
    IsBlockOfCalls entity.label entity.calls := by
  rcases List.length_eq_one_iff.mp single with ⟨calls, only⟩
  have same : entity.calls = calls := by
    rw [← flatten_parts, only, List.flatten_singleton]
  rw [same]
  apply entity.isBlockOfCalls_of_mem_parts
  rw [only]
  exact List.mem_singleton_self calls

end Toolpath
