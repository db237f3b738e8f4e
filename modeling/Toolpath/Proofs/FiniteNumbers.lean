import Mathlib
import Toolpath.Proofs.DoubleBits
import Toolpath.Proofs.Position
import Toolpath.Proofs.Reordering
import Toolpath.Proofs.SessionAccount
import Toolpath.Proofs.StoredSettings

/-!
# Numbers in moving lines

A machine cannot move to a NaN or to infinity.  Valid settings and most shapes
hold finite numbers, but a line takes any ends, and the numbers that are written
for circles and arcs are computed from finite ones, which may overflow.  This
module proves that a program moves to numbers exactly if its lines have finite
ends and nothing overflows in its circles and arcs.
-/

namespace Toolpath

open Number (fixedCharacters)

/-! ## Numbers as they are written -/

namespace Number

/-- What stands in the place of a number that is not finite. -/
def nonNumbers : List (List Char) :=
  [['N', 'a', 'N'], ['i', 'n', 'f'], ['-', 'i', 'n', 'f']]

theorem point_notMem_of_mem_nonNumbers
    {written : List Char}
    (member : written ∈ nonNumbers) :
    '.' ∉ written := by
  revert written
  decide

/-- A number is written as one exactly if it is finite. -/
theorem fixedCharacters_mem_nonNumbers_iff (value : Float) :
    fixedCharacters value ∈ nonNumbers ↔ value.isFinite = false := by
  rw [← Bool.not_eq_true, isFinite_iff]
  cases reading : Reading.ofFloat value with
  | notANumber => simp [fixedCharacters, reading, nonNumbers]
  | infinite negative =>
      cases negative <;>
        simp [fixedCharacters, reading, nonNumbers, Numeral.signCharacters]
  | finite negative magnitudeBits =>
      have decimal : '.' ∈ fixedCharacters value := by
        simp [fixedCharacters, reading, hundredthsNumeral,
          Numeral.characters, Numeral.fractionCharacters]
      constructor
      · intro member
        exact (point_notMem_of_mem_nonNumbers member decimal).elim
      · intro infinite
        exact (infinite ⟨negative, magnitudeBits, rfl⟩).elim

end Number

/-! ## Numbers in lines -/

/-- All given numbers are finite. -/
def AllFinite (numbers : List Float) : Prop :=
  ∀ number ∈ numbers, number.isFinite = true

@[simp]
theorem allFinite_nil : AllFinite [] :=
  List.forall_mem_nil _

@[simp]
theorem allFinite_cons {number : Float} {numbers : List Float} :
    AllFinite (number :: numbers) ↔
      number.isFinite = true ∧ AllFinite numbers :=
  List.forall_mem_cons

theorem Point.isFinite_iff (point : Point) :
    point.isFinite = true ↔
      point.x.isFinite = true ∧ point.y.isFinite = true :=
  Bool.and_eq_true_iff

namespace ProgramLine

/-- The numbers that a moving line is written with. -/
def numbers : ProgramLine → List Float
  | rapid target => [target.x, target.y]
  | cut target feed => [target.x, target.y, feed]
  | arc target offset feed =>
    [target.x, target.y, offset.x, offset.y, feed]
  | circle radius feed => [radius, feed]
  | comment _ | blank | code _ | spindleOn _ | spindleOff _ | dwell _ => []

/-- In the text of a moving line, no word says NaN or infinity after its
letter. -/
def MovesToNumbers (line : ProgramLine) : Prop :=
  line.isMove = true →
    ∀ word ∈ line.text.toList.splitOn ' ', word.tail ∉ Number.nonNumbers

/-- The words of a moving line say nothing but its numbers. -/
theorem movesToNumbers_iff (line : ProgramLine) :
    line.MovesToNumbers ↔ AllFinite line.numbers := by
  have codes : ['0'] ∉ Number.nonNumbers ∧ ['1'] ∉ Number.nonNumbers ∧
      ['3'] ∉ Number.nonNumbers := by
    decide
  cases moves : line.isMove with
  | false =>
      have none : line.numbers = [] := by
        cases line <;> first | rfl | cases moves
      simp [MovesToNumbers, moves, none, AllFinite]
  | true =>
      rw [MovesToNumbers, imp_iff_right moves, splitOn_text line moves]
      cases line with
      | rapid target =>
          simp [words, numbers, AllFinite, codes,
            Number.fixedCharacters_mem_nonNumbers_iff]
      | cut target feed =>
          simp [words, numbers, AllFinite, codes,
            Number.fixedCharacters_mem_nonNumbers_iff]
      | arc target offset feed =>
          simp [words, numbers, AllFinite, codes,
            Number.fixedCharacters_mem_nonNumbers_iff]
      | circle radius feed =>
          simp [words, numbers, AllFinite, codes,
            Number.fixedCharacters_mem_nonNumbers_iff]
      | _ => cases moves

end ProgramLine

/-! ## Numbers in calls -/

/-- The numbers that a call moves to. -/
def Call.numbers : Call → List Float
  | .go target | .draw target => [target.x, target.y]
  | .arc target offset => [target.x, target.y, offset.x, offset.y]
  | .circle radius => [radius]
  | .comment _ | .separator | .code _ | .start | .stop | .setPosition _ => []

section Calls

variable {machine : MachineSettings}

/-- The lines of a call hold its numbers and the feed. -/
theorem Call.forall_lines_iff
    (feed : machine.feed.isFinite = true)
    (call : Call) :
    (∀ line ∈ call.lines machine, AllFinite line.numbers) ↔
      AllFinite call.numbers := by
  have waits (milliseconds : UInt32) :
      ∀ line ∈ dwellLines milliseconds, AllFinite line.numbers := by
    simp [dwellLines, ProgramLine.numbers]
  cases call with
  | start =>
      rw [lines, MachineSettings.engageLines, List.forall_mem_cons]
      exact iff_of_true ⟨allFinite_nil, waits machine.startDelay⟩
        allFinite_nil
  | stop =>
      rw [lines, MachineSettings.liftLines, List.forall_mem_cons]
      exact iff_of_true ⟨allFinite_nil, waits machine.stopDelay⟩
        allFinite_nil
  | comment text => simp [lines, numbers, ProgramLine.numbers]
  | separator => simp [lines, numbers, ProgramLine.numbers]
  | code text => simp [lines, numbers, ProgramLine.numbers]
  | go target => simp [lines, numbers, ProgramLine.numbers]
  | draw target => simp [lines, numbers, ProgramLine.numbers, feed]
  | arc target offset => simp [lines, numbers, ProgramLine.numbers, feed]
  | circle radius => simp [lines, numbers, ProgramLine.numbers, feed]
  | setPosition position => simp [lines, numbers]

/-- Whatever the tool does on its own, it writes no numbers but the feed. -/
theorem Tool.forall_writeAll_iff
    (feed : machine.feed.isFinite = true)
    (tool : Tool)
    (calls : List Call) :
    (∀ line ∈ tool.writeAll machine calls, AllFinite line.numbers) ↔
      ∀ call ∈ calls, AllFinite call.numbers := by
  constructor
  · intro written call told
    rw [← Call.forall_lines_iff feed call]
    intro line member
    exact written line (mem_writeAll_of_mem_lines told member tool)
  · intro finite line member
    obtain ⟨call, told, written⟩ := exists_call_of_mem_writeAll member
    have numbers : AllFinite call.numbers := by
      rcases told with told | rfl | rfl
      · exact finite call told
      · exact allFinite_nil
      · exact allFinite_nil
    exact (Call.forall_lines_iff feed call).mpr numbers line written

end Calls

/-! ## Numbers of entities -/

/-- Whether all numbers that an entity moves to are finite: those of a line as
they are given, those of a circle and of an arc as they are computed. -/
def Entity.isTraceable : Entity → Bool
  | .line shape => shape.start.isFinite && shape.finish.isFinite
  | .circle shape => (shape.center.x - shape.radius).isFinite
  | .arc shape =>
    let first := shape.pointAt 0.0
    let last := shape.pointAt 1.0
    first.isFinite && last.isFinite
      && (shape.center.x - first.x).isFinite
      && (shape.center.y - first.y).isFinite
  | .ellipse _ | .polyline _ => true

/-- The points of a chain are finite from the beginning. -/
theorem Chain.allFinite_of_mem_calls
    (chain : Chain)
    (label : String) :
    ∀ call ∈ chain.calls label, AllFinite call.numbers := by
  have finite : ∀ point ∈ chain.first :: chain.further,
      point.isFinite = true := by
    rw [chain.first_cons_further]
    exact List.all_eq_true.mp chain.points_finite
  have further : ∀ point ∈ chain.further,
      point.x.isFinite = true ∧ point.y.isFinite = true :=
    fun point member =>
      point.isFinite_iff.mp (finite point (List.mem_cons_of_mem _ member))
  have first := chain.first.isFinite_iff.mp (finite _ List.mem_cons_self)
  intro call member
  simp only [calls, drawThrough, List.mem_append, List.mem_cons,
    List.not_mem_nil, or_false, List.mem_flatMap] at member
  -- Of these calls only the move to the first point and the cuts to the further
  -- ones have numbers.
  rcases member with ((rfl | rfl | rfl) | ⟨point, among, rfl | rfl⟩) |
    (rfl | rfl)
  case inl.inl.inr.inl => simpa [Call.numbers] using first
  case inl.inr.inl => simpa [Call.numbers] using further point among
  all_goals exact allFinite_nil

theorem Entity.forall_calls_iff (entity : Entity) :
    (∀ call ∈ entity.calls, AllFinite call.numbers) ↔
      entity.isTraceable = true := by
  cases entity with
  | line shape =>
      simp [Line.calls, Call.numbers, isTraceable, Point.isFinite_iff]
  | circle shape =>
      have center := shape.center.isFinite_iff.mp shape.center_finite
      have radius := shape.radius_valid
      rw [isRadius, Bool.and_eq_true] at radius
      simp [Circle.calls, Call.numbers, isTraceable, Circle.start, center.2,
        radius.1]
  | arc shape =>
      simp [Arc.calls, Call.numbers, isTraceable, Point.isFinite_iff,
        and_assoc]
  | ellipse shape => simp [isTraceable]
  | polyline shape =>
      simp only [isTraceable, iff_true]
      intro call member
      obtain ⟨chain, -, told⟩ := List.mem_flatMap.mp member
      exact chain.allFinite_of_mem_calls shape.label call told

/-! ## Whole programs -/

/-- All moving lines of a program move to numbers. -/
def Program.MovesToNumbers (program : Program) : Prop :=
  ∀ line ∈ program.lines, line.MovesToNumbers

namespace ValidSettings

variable (valid : ValidSettings) (entities : List Entity)

theorem isFinite_feed : valid.settings.machine.feed.isFinite = true := by
  have feed := (Settings.fault?_eq_none_iff.mp valid.faultless).1
  rw [isFeed, Bool.and_eq_true] at feed
  exact feed.1

/-- The frame of a program moves nowhere but home. -/
theorem allFinite_of_mem_frame :
    ∀ line ∈ valid.settings.preamble ++ valid.settings.postscript,
      AllFinite line.numbers := by
  obtain ⟨-, -, -, finite⟩ :=
    Settings.fault?_eq_none_iff.mp valid.faultless
  cases home : valid.settings.output.home with
  | none =>
      simp [Settings.preamble, Settings.postscript, home,
        ProgramLine.numbers]
  | some position =>
      have arrives := position.isFinite_iff.mp (finite position home)
      simp [Settings.preamble, Settings.postscript, home,
        ProgramLine.numbers, arrives]

theorem movesToNumbers_programOf_iff :
    (valid.settings.programOf entities).MovesToNumbers ↔
      ∀ entity ∈ entities, entity.isTraceable = true := by
  have frame := valid.allFinite_of_mem_frame
  rw [List.forall_mem_append] at frame
  have lines :
      (valid.settings.programOf entities).MovesToNumbers ↔
        ∀ line ∈ (valid.settings.programOf entities).body,
          AllFinite line.numbers := by
    simp only [Program.MovesToNumbers, ProgramLine.movesToNumbers_iff,
      Program.lines, List.forall_mem_append]
    exact ⟨fun all => all.1.2, fun body => ⟨⟨frame.1, body⟩, frame.2⟩⟩
  rw [lines, Settings.programOf]
  simp only [Tool.forall_writeAll_iff valid.isFinite_feed, callsOf,
    List.forall_mem_flatMap, Entity.forall_calls_iff]

variable {entities} {program : Program}

theorem movesToNumbers_of_compile
    (compiled : valid.compile entities = .ok program)
    (traceable : ∀ entity ∈ entities, entity.isTraceable = true) :
    program.MovesToNumbers := by
  obtain ⟨-, rfl⟩ := compile_eq_ok_iff.mp compiled
  refine (valid.movesToNumbers_programOf_iff _).mpr fun entity member => ?_
  exact traceable entity
    ((valid.settings.arrange_perm entities).mem_iff.mp member)

/-- One entity that cannot be traced is enough. -/
theorem not_movesToNumbers_of_compile
    (compiled : valid.compile entities = .ok program)
    (entity : Entity)
    (member : entity ∈ entities)
    (untraceable : entity.isTraceable = false) :
    ¬ program.MovesToNumbers := by
  obtain ⟨-, rfl⟩ := compile_eq_ok_iff.mp compiled
  intro moves
  have traceable :=
    (valid.movesToNumbers_programOf_iff _).mp moves entity
      ((valid.settings.arrange_perm entities).mem_iff.mpr member)
  rw [untraceable] at traceable
  cases traceable

end ValidSettings

/-- Under valid settings a program moves to numbers exactly if all entities can
be traced: whatever else a program holds is finite. -/
theorem moves_to_numbers_iff
    (valid : ValidSettings)
    (entities : List Entity)
    (program : Program)
    (compiled : valid.compile entities = .ok program) :
    program.MovesToNumbers ↔
      ∀ entity ∈ entities, entity.isTraceable = true := by
  constructor
  · intro moves entity member
    by_contra untraceable
    rw [Bool.not_eq_true] at untraceable
    exact valid.not_movesToNumbers_of_compile compiled entity member
      untraceable moves
  · exact valid.movesToNumbers_of_compile compiled

/-- A drawing in which nothing overflows. -/
theorem sample_moves_to_numbers :
    ∃ program,
      Sample.settings.compile
          [Sample.line, Sample.circle, Sample.ellipse, Sample.polyline] =
        .ok program ∧
        program.MovesToNumbers := by
  have traceable :
      ∀ entity ∈
          [Sample.line, Sample.circle, Sample.ellipse, Sample.polyline],
        entity.isTraceable = true := by
    decide +kernel
  exact ⟨_, rfl,
    (moves_to_numbers_iff Sample.settings _ _ rfl).mpr traceable⟩

/-- A line that starts at a NaN. -/
def Sample.undefinedLine : Entity := .line ⟨⟨0.0 / 0.0, 0.0⟩, ⟨1.0, 1.0⟩⟩

/-- A circle with a finite center and a finite radius, of which the leftmost
point is out of range. -/
def Sample.overflowingCircle : Entity :=
  .circle ⟨⟨-1.7e308, 0.0⟩, 1.7e308, by decide +kernel, by decide +kernel⟩

/-- Entities are accepted that make a program move to a NaN or to infinity. -/
theorem moves_beyond_numbers :
    (∃ program,
      Sample.settings.compile [Sample.undefinedLine] = .ok program ∧
        "G0 XNaN Y0.00" ∈ program.lines.map ProgramLine.text ∧
        ¬ program.MovesToNumbers) ∧
    ∃ program,
      Sample.settings.compile [Sample.overflowingCircle] = .ok program ∧
        "G0 X-inf Y0.00" ∈ program.lines.map ProgramLine.text ∧
        ¬ program.MovesToNumbers := by
  constructor
  · have compiled :
        Sample.settings.compile [Sample.undefinedLine] =
          .ok (Sample.settings.settings.programOf [Sample.undefinedLine]) :=
      rfl
    exact ⟨_, compiled, by decide +kernel,
      Sample.settings.not_movesToNumbers_of_compile compiled
        Sample.undefinedLine List.mem_cons_self (by decide +kernel)⟩
  · have compiled :
        Sample.settings.compile [Sample.overflowingCircle] =
          .ok
            (Sample.settings.settings.programOf
              [Sample.overflowingCircle]) :=
      rfl
    exact ⟨_, compiled, by decide +kernel,
      Sample.settings.not_movesToNumbers_of_compile compiled
        Sample.overflowingCircle List.mem_cons_self (by decide +kernel)⟩

end Toolpath
