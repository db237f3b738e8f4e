import Toolpath.Proofs.Blocks

/-!
# Tool discipline

Every line of a program is a rapid move, a cut, an engagement or a lift of the
tool, or leaves the tool alone.  Read in order, the lines of a compiled program
keep a discipline: cuts happen with the tool down, rapid moves with the tool
up, and engagements and lifts alternate in the body.

The tool knows whether it is engaged, and what it writes agrees with what it
knows.  The discipline of the lines is therefore reduced to one of the calls:
the tool is started only while lifted, and stopped or used for a round cut
only while engaged.  All entities call the tool in this way, wherever they
find it.
-/

namespace Toolpath

/-! ## Reading lines with the state of the tool -/

/-- What a line does with the tool. -/
inductive ToolUse where
  /-- A move that must not touch the material. -/
  | rapid
  | cut
  | engage
  | lift
  | neutral
deriving DecidableEq, Repr

/-- What a line does with the tool, by what wrote it. -/
def ProgramLine.toolUse : ProgramLine → ToolUse
  | .rapid _ => .rapid
  | .cut _ _ | .arc _ _ _ | .circle _ _ => .cut
  | .spindleOn _ => .engage
  | .spindleOff _ => .lift
  | .comment _ | .blank | .code _ | .dwell _ => .neutral

namespace ToolUse

/-- Whether the tool is down after a line that uses it. -/
def leavesDown (down : Bool) : ToolUse → Bool
  | engage => true
  | lift => false
  | rapid | cut | neutral => down

/-- Whether a use of the tool is proper while it is down, or up. -/
def isProper (down : Bool) : ToolUse → Bool
  | rapid | engage => !down
  | cut | lift => down
  | neutral => true

def isToggle : ToolUse → Bool
  | engage | lift => true
  | rapid | cut | neutral => false

end ToolUse

def downAfter (down : Bool) (lines : List ProgramLine) : Bool :=
  lines.foldl (fun down line => line.toolUse.leavesDown down) down

@[simp]
theorem downAfter_nil (down : Bool) : downAfter down [] = down := rfl

@[simp]
theorem downAfter_cons
    (down : Bool)
    (line : ProgramLine)
    (lines : List ProgramLine) :
    downAfter down (line :: lines) =
      downAfter (line.toolUse.leavesDown down) lines :=
  rfl

@[simp]
theorem downAfter_append
    (down : Bool)
    (first second : List ProgramLine) :
    downAfter down (first ++ second) =
      downAfter (downAfter down first) second :=
  List.foldl_append

/-- A line of two lists is found in the first or in the second. -/
theorem append_eq_append_cons_iff
    {Item : Type}
    {first second before after : List Item}
    {item : Item} :
    first ++ second = before ++ item :: after ↔
      (∃ middle,
        first = before ++ item :: middle ∧ after = middle ++ second) ∨
      ∃ earlier,
        before = first ++ earlier ∧ second = earlier ++ item :: after := by
  constructor
  · intro split
    rcases List.append_eq_append_iff.mp split with
      ⟨earlier, isBefore, isSecond⟩ | ⟨further, isFirst, isRest⟩
    · exact Or.inr ⟨earlier, isBefore, isSecond⟩
    · rcases List.cons_eq_append_iff.mp isRest with
        ⟨nothing, isSecond⟩ | ⟨middle, isFurther, isAfter⟩
      · subst nothing
        rw [List.append_nil] at isFirst
        exact Or.inr ⟨[], by simp [isFirst], isSecond⟩
      · subst isFurther
        exact Or.inl ⟨middle, isFirst, isAfter⟩
  · rintro (⟨middle, rfl, rfl⟩ | ⟨earlier, rfl, rfl⟩)
    · rw [List.append_assoc, List.cons_append]
    · rw [List.append_assoc]

/-- Every line is read while the tool is down, or up, as required of its use. -/
def Throughout
    (required : Bool → ToolUse → Prop)
    (down : Bool)
    (lines : List ProgramLine) :
    Prop :=
  ∀ before line after, lines = before ++ line :: after →
    required (downAfter down before) line.toolUse

section Throughout

variable {required : Bool → ToolUse → Prop} {down : Bool}

@[simp]
theorem throughout_nil : Throughout required down [] := by
  intro before line after split
  simp at split

@[simp]
theorem throughout_cons {line : ProgramLine} {lines : List ProgramLine} :
    Throughout required down (line :: lines) ↔
      required down line.toolUse ∧
        Throughout required (line.toolUse.leavesDown down) lines := by
  constructor
  · intro throughout
    refine ⟨throughout [] line lines rfl, ?_⟩
    intro before next after split
    have longer : line :: lines = (line :: before) ++ next :: after := by
      rw [split, List.cons_append]
    exact throughout (line :: before) next after longer
  · rintro ⟨head, throughout⟩ before next after split
    cases before with
    | nil =>
        obtain ⟨rfl, -⟩ := List.cons.inj split
        exact head
    | cons first before =>
        obtain ⟨rfl, rest⟩ := List.cons.inj split
        exact throughout before next after rest

theorem throughout_append {first second : List ProgramLine} :
    Throughout required down (first ++ second) ↔
      Throughout required down first ∧
        Throughout required (downAfter down first) second := by
  induction first generalizing down with
  | nil => simp
  | cons line lines hypothesis => simp [hypothesis, and_assoc]

theorem Throughout.imp
    {weaker : Bool → ToolUse → Prop}
    {lines : List ProgramLine}
    (throughout : Throughout required down lines)
    (implies : ∀ down use, required down use → weaker down use) :
    Throughout weaker down lines :=
  fun before line after split =>
    implies _ _ (throughout before line after split)

end Throughout

def Proper (down : Bool) (lines : List ProgramLine) : Prop :=
  Throughout (fun down use => use.isProper down = true) down lines

/-! ## What proper lines imply -/

def toggles (lines : List ProgramLine) : List ToolUse :=
  (lines.map ProgramLine.toolUse).filter ToolUse.isToggle

theorem toggles_cons (line : ProgramLine) (lines : List ProgramLine) :
    toggles (line :: lines) =
      if line.toolUse.isToggle then line.toolUse :: toggles lines
      else toggles lines := by
  simp only [toggles, List.map_cons, List.filter_cons]

/-- A proper switch is the one that the state of the tool asks for. -/
theorem ToolUse.eq_of_isToggle
    {down : Bool}
    {use : ToolUse}
    (proper : use.isProper down = true)
    (toggle : use.isToggle = true) :
    use = (if down then .lift else .engage) ∧
      use.leavesDown down = !down := by
  cases down <;> cases use <;> simp_all [isProper, isToggle, leavesDown]

theorem ToolUse.leavesDown_of_not_isToggle
    {use : ToolUse}
    (steady : ¬ use.isToggle = true)
    (down : Bool) :
    use.leavesDown down = down := by
  cases use <;> simp_all [isToggle, leavesDown]

/-- Proper lines engage the tool and lift it by turns. -/
theorem Proper.toggles_alternate
    {down : Bool}
    {lines : List ProgramLine}
    (proper : Proper down lines)
    {place : Nat}
    {toggle : ToolUse}
    (found : (toggles lines)[place]? = some toggle) :
    toggle = if place % 2 = down.toNat then .engage else .lift := by
  induction lines generalizing down place with
  | nil => simp [toggles] at found
  | cons line lines hypothesis =>
      obtain ⟨head, tail⟩ := throughout_cons.mp proper
      rw [toggles_cons] at found
      split at found
      next switches =>
        obtain ⟨use, leaves⟩ := ToolUse.eq_of_isToggle head switches
        cases place with
        | zero =>
            rw [List.getElem?_cons_zero, use] at found
            cases down <;> simp_all
        | succ place =>
            -- The toggles after the first begin in the other state.
            rw [List.getElem?_cons_succ] at found
            rw [hypothesis tail found, leaves]
            cases down
            · have parity : (place + 1) % 2 = 0 ↔ place % 2 = 1 := by
                omega
              simp [parity]
            · have parity : (place + 1) % 2 = 1 ↔ place % 2 = 0 := by
                omega
              simp [parity]
      next steady =>
        rw [ToolUse.leavesDown_of_not_isToggle steady] at tail
        exact hypothesis tail found

/-- Proper lines engage the tool as often as they lift it, up to the states
between which they lead. -/
theorem Proper.count_toggles
    {down : Bool}
    {lines : List ProgramLine}
    (proper : Proper down lines) :
    lines.countP (·.toolUse = .engage) + down.toNat =
      lines.countP (·.toolUse = .lift)
        + (downAfter down lines).toNat := by
  induction lines generalizing down with
  | nil => simp
  | cons line lines hypothesis =>
      obtain ⟨head, tail⟩ := throughout_cons.mp proper
      have later := hypothesis tail
      cases use : line.toolUse <;> cases down <;>
        simp_all [ToolUse.leavesDown, ToolUse.isProper]
      all_goals omega

/-! ## What the tool writes -/

namespace Call

def isAllowed (engaged : Bool) : Call → Bool
  | start => !engaged
  | stop | arc _ _ | circle _ => engaged
  | comment _ | separator | code _ | go _ | draw _ | setPosition _ => true

end Call

namespace Tool

/-- Each call suits the state in which it finds the tool. -/
def Obeys (tool : Tool) : List Call → Prop
  | [] => True
  | call :: calls =>
    call.isAllowed tool.engaged = true ∧ (tool.after call).Obeys calls

theorem obeys_append
    {tool : Tool}
    {first second : List Call} :
    tool.Obeys (first ++ second) ↔
      tool.Obeys first ∧ (tool.afterAll first).Obeys second := by
  induction first generalizing tool with
  | nil => simp [Obeys]
  | cons call calls hypothesis => simp [Obeys, hypothesis, and_assoc]

theorem obeys_flatMap
    {Part : Type}
    {callsOfPart : Part → List Call}
    (obeys : ∀ (tool : Tool) part, tool.Obeys (callsOfPart part))
    (tool : Tool)
    (parts : List Part) :
    tool.Obeys (parts.flatMap callsOfPart) := by
  induction parts generalizing tool with
  | nil => trivial
  | cons part parts hypothesis =>
      rw [List.flatMap_cons, obeys_append]
      exact ⟨obeys tool part, hypothesis _⟩

@[simp]
theorem downAfter_dwellLines (down : Bool) (milliseconds : UInt32) :
    downAfter down (dwellLines milliseconds) = down := by
  rw [dwellLines]
  split <;> rfl

theorem proper_dwellLines (down : Bool) (milliseconds : UInt32) :
    Proper down (dwellLines milliseconds) := by
  rw [dwellLines, Proper]
  split
  · simp [ProgramLine.toolUse, ToolUse.isProper]
  · exact throughout_nil

@[simp]
theorem downAfter_engageLines (down : Bool) (machine : MachineSettings) :
    downAfter down machine.engageLines = true := by
  simp [MachineSettings.engageLines, ProgramLine.toolUse,
    ToolUse.leavesDown]

@[simp]
theorem downAfter_liftLines (down : Bool) (machine : MachineSettings) :
    downAfter down machine.liftLines = false := by
  simp [MachineSettings.liftLines, ProgramLine.toolUse, ToolUse.leavesDown]

theorem proper_engageLines (machine : MachineSettings) :
    Proper false machine.engageLines := by
  refine throughout_cons.mpr ⟨rfl, ?_⟩
  exact proper_dwellLines true machine.startDelay

theorem proper_liftLines (machine : MachineSettings) :
    Proper true machine.liftLines := by
  refine throughout_cons.mpr ⟨rfl, ?_⟩
  exact proper_dwellLines false machine.stopDelay

/-- The lines of a call lead to the state that the tool knows of. -/
theorem downAfter_write
    (machine : MachineSettings)
    (tool : Tool)
    (call : Call) :
    downAfter tool.engaged (tool.write machine call) =
      (tool.after call).engaged := by
  cases call with
  | go target =>
      cases engaged : tool.engaged <;>
        simp [write, after, engaged, ProgramLine.toolUse,
          ToolUse.leavesDown]
  | draw target =>
      cases engaged : tool.engaged <;>
        simp [write, after, engaged, ProgramLine.toolUse,
          ToolUse.leavesDown]
  | start => exact downAfter_engageLines tool.engaged machine
  | stop => exact downAfter_liftLines tool.engaged machine
  | comment text => rfl
  | separator => rfl
  | code text => rfl
  | arc target offset => rfl
  | circle radius => rfl
  | setPosition position => rfl

/-- The lines of a call that suits the tool use it properly. -/
theorem proper_write
    (machine : MachineSettings)
    {tool : Tool}
    {call : Call}
    (allowed : call.isAllowed tool.engaged = true) :
    Proper tool.engaged (tool.write machine call) := by
  cases call with
  | go target =>
      -- A move lifts the tool first, if it has to.
      cases engaged : tool.engaged with
      | false =>
          simp [write, engaged, Proper, ProgramLine.toolUse,
            ToolUse.isProper]
      | true =>
          simp only [write, engaged, if_true]
          refine throughout_append.mpr ⟨proper_liftLines machine, ?_⟩
          simp [ProgramLine.toolUse, ToolUse.isProper]
  | draw target =>
      cases engaged : tool.engaged with
      | true =>
          simp [write, engaged, Proper, ProgramLine.toolUse,
            ToolUse.isProper]
      | false =>
          simp only [write, engaged, Bool.false_eq_true, if_false]
          refine throughout_append.mpr ⟨proper_engageLines machine, ?_⟩
          simp [ProgramLine.toolUse, ToolUse.isProper]
  | start =>
      simp only [Call.isAllowed, Bool.not_eq_true'] at allowed
      rw [allowed]
      exact proper_engageLines machine
  | stop =>
      simp only [Call.isAllowed] at allowed
      rw [allowed]
      exact proper_liftLines machine
  | arc target offset =>
      simpa [write, Proper, ProgramLine.toolUse, ToolUse.isProper,
        Call.isAllowed] using allowed
  | circle radius =>
      simpa [write, Proper, ProgramLine.toolUse, ToolUse.isProper,
        Call.isAllowed] using allowed
  | comment text =>
      simp [write, Proper, ProgramLine.toolUse, ToolUse.isProper]
  | separator =>
      simp [write, Proper, ProgramLine.toolUse, ToolUse.isProper]
  | code text =>
      simp [write, Proper, ProgramLine.toolUse, ToolUse.isProper]
  | setPosition position => exact throughout_nil

theorem downAfter_writeAll
    (machine : MachineSettings)
    (tool : Tool)
    (calls : List Call) :
    downAfter tool.engaged (tool.writeAll machine calls) =
      (tool.afterAll calls).engaged := by
  induction calls generalizing tool with
  | nil => rfl
  | cons call calls hypothesis =>
      rw [writeAll, downAfter_append, downAfter_write, hypothesis,
        afterAll_cons]

theorem proper_writeAll
    (machine : MachineSettings)
    {tool : Tool}
    {calls : List Call}
    (obeys : tool.Obeys calls) :
    Proper tool.engaged (tool.writeAll machine calls) := by
  induction calls generalizing tool with
  | nil => exact throughout_nil
  | cons call calls hypothesis =>
      obtain ⟨allowed, later⟩ := obeys
      refine throughout_append.mpr ⟨proper_write machine allowed, ?_⟩
      rw [downAfter_write]
      exact hypothesis later

end Tool

/-! ## How entities call the tool -/

/-- Straight cuts keep an engaged tool engaged. -/
theorem obeys_drawThrough
    (tool : Tool)
    (points : List Point) :
    tool.Obeys (drawThrough points) := by
  apply Tool.obeys_flatMap
  intro tool point
  exact ⟨rfl, rfl, trivial⟩

theorem engaged_afterAll_drawThrough
    {tool : Tool}
    (engaged : tool.engaged = true)
    (points : List Point) :
    (tool.afterAll (drawThrough points)).engaged = true := by
  induction points generalizing tool with
  | nil => exact engaged
  | cons point points hypothesis =>
      have drawn : (⟨true, some point⟩ : Tool).engaged = true := rfl
      exact hypothesis drawn

theorem Chain.obeys_calls
    (tool : Tool)
    (label : String)
    (chain : Chain) :
    tool.Obeys (chain.calls label) := by
  have started :
      ((tool.afterAll
        [.comment label, .go chain.first, .start]).afterAll
          (drawThrough chain.further)).engaged = true :=
    engaged_afterAll_drawThrough rfl chain.further
  rw [Chain.calls, Tool.obeys_append, Tool.obeys_append,
    Tool.afterAll_append]
  refine ⟨⟨?_, obeys_drawThrough _ _⟩, started, rfl, trivial⟩
  exact ⟨rfl, rfl, rfl, trivial⟩

/-- Every entity calls the tool as its state allows, whatever the state in
which it finds the tool. -/
theorem Entity.obeys_calls
    (tool : Tool)
    (entity : Entity) :
    tool.Obeys entity.calls := by
  cases entity with
  | line shape => exact ⟨rfl, rfl, rfl, rfl, trivial⟩
  | circle shape => exact ⟨rfl, rfl, rfl, rfl, rfl, rfl, trivial⟩
  | arc shape => exact ⟨rfl, rfl, rfl, rfl, rfl, rfl, rfl, trivial⟩
  | ellipse shape => trivial
  | polyline shape =>
      exact Tool.obeys_flatMap
        (fun tool chain => chain.obeys_calls tool shape.label)
        tool shape.chains

theorem obeys_callsOf
    (tool : Tool)
    (entities : List Entity) :
    tool.Obeys (callsOf entities) :=
  Tool.obeys_flatMap Entity.obeys_calls tool entities

/-! ## Whole programs -/

/--
A program that cuts the given entities, in this order, and keeps the discipline
of the tool.  The tool is up before the first line of the preamble.
-/
structure Program.KeepsDiscipline
    (program : Program)
    (drawn : List Entity) :
    Prop where
  /-- In the body the tool is engaged only while it is up. -/
  engaged_while_up :
    Throughout (fun down use => use = .engage → down = false)
      (downAfter false program.preamble) program.body
  /-- In the body the tool is lifted only while it is down. -/
  lifted_while_down :
    Throughout (fun down use => use = .lift → down = true)
      (downAfter false program.preamble) program.body
  /-- In the body the tool is engaged and lifted by turns, first engaged. -/
  toggles_alternate :
    ∀ place toggle, (toggles program.body)[place]? = some toggle →
      toggle = if place % 2 = 0 then .engage else .lift
  /-- In the whole program every cut is made while the tool is down. -/
  cuts_while_down :
    Throughout (fun down use => use = .cut → down = true)
      false program.lines
  /-- In the whole program every rapid move, the one home included, is made
  while the tool is up. -/
  rapid_while_up :
    Throughout (fun down use => use = .rapid → down = false)
      false program.lines
  /-- The body leaves the tool down exactly if the last entity that contributed
  lines is a line. -/
  down_after_body :
    downAfter false (program.preamble ++ program.body) = true ↔
      ∃ shape, (drawn.filter Entity.contributes).getLast? =
        some (.line shape)
  /-- Only a line at the end of the body leaves an engagement unmatched. -/
  engagements_matched :
    program.body.countP (·.toolUse = .engage) =
      program.body.countP (·.toolUse = .lift)
        + if endsWithLine drawn then 1 else 0
  /-- The whole program leaves the tool up. -/
  up_at_end : downAfter false program.lines = false

theorem endsWithLine_iff {entities : List Entity} :
    endsWithLine entities = true ↔
      ∃ shape, (entities.filter Entity.contributes).getLast? =
        some (.line shape) := by
  rw [endsWithLine, Option.any_eq_true]
  constructor
  · rintro ⟨entity, last, isLine⟩
    cases entity with
    | line shape => exact ⟨shape, last⟩
    | circle shape => cases isLine
    | arc shape => cases isLine
    | ellipse shape => cases isLine
    | polyline shape => cases isLine
  · rintro ⟨shape, last⟩
    exact ⟨.line shape, last, rfl⟩

theorem Settings.proper_preamble (settings : Settings) :
    Proper false settings.preamble := by
  simp [Proper, Settings.preamble, ProgramLine.toolUse, ToolUse.isProper,
    ToolUse.leavesDown]

theorem Settings.downAfter_preamble (settings : Settings) (down : Bool) :
    downAfter down settings.preamble = down := by
  simp [Settings.preamble, ProgramLine.toolUse, ToolUse.leavesDown]

/-- The postscript lifts the tool, which is up already unless the last entity
was a line; nothing else in it is improper. -/
theorem Settings.throughout_postscript
    {required : Bool → ToolUse → Prop}
    (settings : Settings)
    (down : Bool)
    (neutral : ∀ down, required down .neutral)
    (lift : required down .lift)
    (rapid : required false .rapid) :
    Throughout required down settings.postscript := by
  cases home : settings.output.home <;>
    simp [Settings.postscript, home, ProgramLine.toolUse,
      ToolUse.leavesDown, neutral, lift, rapid]

theorem Settings.downAfter_postscript (settings : Settings) (down : Bool) :
    downAfter down settings.postscript = false := by
  cases home : settings.output.home <;>
    simp [Settings.postscript, home, ProgramLine.toolUse,
      ToolUse.leavesDown]

theorem Settings.proper_body (settings : Settings) (entities : List Entity) :
    Proper false (settings.programOf entities).body :=
  Tool.proper_writeAll settings.machine
    (obeys_callsOf Tool.initial entities)

theorem Settings.downAfter_body
    (settings : Settings)
    (entities : List Entity) :
    downAfter false (settings.programOf entities).body =
      endsWithLine entities := by
  rw [← engaged_afterAll_callsOf]
  exact Tool.downAfter_writeAll settings.machine Tool.initial
    (callsOf entities)

/-- What is required of lines that are proper, and of a lift in any state, is
met throughout a program. -/
theorem Settings.throughout_programOf
    {required : Bool → ToolUse → Prop}
    (settings : Settings)
    (entities : List Entity)
    (proper : ∀ down use, use.isProper down = true → required down use)
    (lift : ∀ down, required down .lift) :
    Throughout required false (settings.programOf entities).lines := by
  have preamble := settings.proper_preamble.imp proper
  have body := (settings.proper_body entities).imp proper
  have postscript := settings.throughout_postscript
    (endsWithLine entities) (fun down => proper down .neutral rfl)
    (lift _) (proper false .rapid rfl)
  refine throughout_append.mpr ⟨throughout_append.mpr ⟨preamble, ?_⟩, ?_⟩
  · rw [Settings.preamble_programOf, Settings.downAfter_preamble]
    exact body
  · rw [downAfter_append, Settings.preamble_programOf,
      Settings.downAfter_preamble, Settings.downAfter_body]
    exact postscript

/-- Every program that is compiled under valid settings keeps the discipline of
the tool, in whichever order its entities are arranged. -/
theorem compile_keeps_discipline
    (valid : ValidSettings)
    (entities : List Entity)
    (program : Program)
    (compiled : valid.compile entities = .ok program) :
    program.KeepsDiscipline (valid.settings.arrange entities) := by
  obtain ⟨-, rfl⟩ := ValidSettings.compile_eq_ok_iff.mp compiled
  generalize valid.settings.arrange entities = drawn
  have proper := valid.settings.proper_body drawn
  have before := valid.settings.downAfter_preamble false
  have after := valid.settings.downAfter_body drawn
  constructor
  case engaged_while_up =>
    rw [Settings.preamble_programOf, before]
    refine proper.imp ?_
    rintro down use isProper rfl
    simpa [ToolUse.isProper] using isProper
  case lifted_while_down =>
    rw [Settings.preamble_programOf, before]
    refine proper.imp ?_
    rintro down use isProper rfl
    exact isProper
  case toggles_alternate =>
    intro place toggle found
    exact proper.toggles_alternate found
  case cuts_while_down =>
    refine valid.settings.throughout_programOf drawn ?_ ?_
    · rintro down use isProper rfl
      exact isProper
    · simp
  case rapid_while_up =>
    refine valid.settings.throughout_programOf drawn ?_ ?_
    · rintro down use isProper rfl
      simpa [ToolUse.isProper] using isProper
    · simp
  case down_after_body =>
    rw [downAfter_append, Settings.preamble_programOf, before, after]
    exact endsWithLine_iff
  case engagements_matched =>
    have count := proper.count_toggles
    rw [after, Bool.toNat_false, Nat.add_zero] at count
    rw [count]
    cases endsWithLine drawn <;> rfl
  case up_at_end =>
    rw [Program.lines, downAfter_append]
    exact valid.settings.downAfter_postscript _

/-- A drawing whose last line is followed by entities that contribute
nothing. -/
theorem sample_keeps_discipline :
    ∃ program,
      Sample.settings.compile Sample.drawing = .ok program ∧
        program.KeepsDiscipline Sample.drawing :=
  ⟨_, rfl,
    compile_keeps_discipline Sample.settings Sample.drawing _ rfl⟩

end Toolpath
