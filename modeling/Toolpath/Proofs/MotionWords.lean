import Toolpath.Proofs.Strokes

/-!
# Motions in words

A machine is given a program as text.  It cuts a line at its blanks and knows a
motion by the letters of its words; the rest of each word is a coordinate.  This
module proves that the text of a line tells what the line is meant to tell, with
coordinates written out to two decimal places.

The words that switch the tool are any text, so they are known by what wrote
them, never by what they look like.
-/

namespace Toolpath

/-! ## The characters of written numbers -/

namespace Number

/-- The characters that numbers with two decimal places are written in. -/
def isNumberCharacter (character : Char) : Bool :=
  character.isDigit || character ∈ ['-', '.', 'N', 'a', 'i', 'n', 'f']

theorem isNumberCharacter_of_mem_digitsOf
    {value : Nat}
    {character : Char}
    (member : character ∈ digitsOf value) :
    isNumberCharacter character = true := by
  have digit : character.isDigit = true :=
    Nat.isDigit_of_mem_toDigits (by decide) (by decide) member
  simp [isNumberCharacter, digit]

theorem isNumberCharacter_digitChar
    {digit : Nat}
    (small : digit < 10) :
    isNumberCharacter digit.digitChar = true := by
  simp [isNumberCharacter, small]

theorem isNumberCharacter_of_mem_signCharacters
    {negative : Bool}
    {character : Char}
    (member : character ∈ Numeral.signCharacters negative) :
    isNumberCharacter character = true := by
  cases negative with
  | false => cases member
  | true =>
      rw [List.mem_singleton.mp member]
      rfl

/-- No other character occurs in a number with two decimal places, which may
be no number or infinite as well. -/
theorem isNumberCharacter_of_mem_fixedCharacters
    {value : Float}
    {character : Char}
    (member : character ∈ fixedCharacters value) :
    isNumberCharacter character = true := by
  rw [fixedCharacters] at member
  split at member
  next =>
    simp only [List.mem_cons, List.not_mem_nil, or_false] at member
    rcases member with rfl | rfl | rfl <;> rfl
  next negative =>
    rcases List.mem_append.mp member with sign | name
    · exact isNumberCharacter_of_mem_signCharacters sign
    · simp only [List.mem_cons, List.not_mem_nil, or_false] at name
      rcases name with rfl | rfl | rfl <;> rfl
  next negative magnitudeBits =>
    simp only [hundredthsNumeral, Numeral.characters,
      Numeral.fractionCharacters, Numeral.exponentCharacters,
      List.append_nil, List.mem_append, List.mem_cons, List.not_mem_nil,
      or_false] at member
    rcases member with (sign | whole) | rfl | rfl | rfl
    · exact isNumberCharacter_of_mem_signCharacters sign
    · exact isNumberCharacter_of_mem_digitsOf whole
    · rfl
    · exact isNumberCharacter_digitChar (by omega)
    · exact isNumberCharacter_digitChar (by omega)

theorem blank_notMem_fixedCharacters (value : Float) :
    ' ' ∉ fixedCharacters value := by
  intro member
  have impossible := isNumberCharacter_of_mem_fixedCharacters member
  simp [isNumberCharacter] at impossible

end Number

/-! ## Changing the way coordinates are given -/

section Map

variable {Source Target : Type} (convert : Source → Target)

def Location.map (location : Location Source) : Location Target :=
  ⟨convert location.x, convert location.y⟩

def Motion.map : Motion Source → Motion Target
  | .rapid target => .rapid (target.map convert)
  | .straight target => .straight (target.map convert)
  | .arc target offset => .arc (target.map convert) (offset.map convert)
  | .circle offset => .circle (convert offset)
  | .engage => .engage
  | .lift => .lift
  | .still => .still

def Path.map : Path Source → Path Target
  | .straight target => .straight (target.map convert)
  | .arc target offset => .arc (target.map convert) (offset.map convert)
  | .circle offset => .circle (convert offset)

def Stroke.map (stroke : Stroke Source) : Stroke Target where
  start := stroke.start.map (Location.map convert)
  path := stroke.path.map convert
  engaged := stroke.engaged

def Plotter.map (plotter : Plotter Source) : Plotter Target where
  position := plotter.position.map (Location.map convert)
  engaged := plotter.engaged

theorem Plotter.after_map
    (plotter : Plotter Source)
    (motion : Motion Source) :
    (plotter.map convert).after (motion.map convert) =
      (plotter.after motion).map convert := by
  cases motion <;> rfl

theorem Plotter.draw_map
    (plotter : Plotter Source)
    (motion : Motion Source) :
    (plotter.map convert).draw (motion.map convert) =
      (plotter.draw motion).map (Stroke.map convert) := by
  cases motion <;> rfl

/-- A machine does not look into its coordinates. -/
theorem Plotter.drawAll_map
    (plotter : Plotter Source)
    (motions : List (Motion Source)) :
    (plotter.map convert).drawAll (motions.map (Motion.map convert)) =
      (plotter.drawAll motions).map (Stroke.map convert) := by
  induction motions generalizing plotter with
  | nil => rfl
  | cons motion motions hypothesis =>
      rw [List.map_cons, drawAll, drawAll, draw_map, after_map,
        hypothesis, List.map_append]

end Map

/-! ## Reading words -/

namespace Motion

def ofWords : List (List Char) → Motion (List Char)
  | [['G', '0'], 'X' :: x, 'Y' :: y] => .rapid ⟨x, y⟩
  | [['G', '1'], 'X' :: x, 'Y' :: y, 'F' :: _] => .straight ⟨x, y⟩
  | [['G', '3'], 'X' :: x, 'Y' :: y, 'I' :: i, 'J' :: j, 'F' :: _] =>
    .arc ⟨x, y⟩ ⟨i, j⟩
  | [['G', '3'], 'I' :: i, ['J', '0'], 'F' :: _] => .circle i
  | _ => .still

def ofText (text : String) : Motion (List Char) :=
  ofWords (text.toList.splitOn ' ')

theorem ofText_eq_ofWords
    {text : String}
    {words : List (List Char)}
    (joined : text.toList = [' '].intercalate words)
    (unbroken : ∀ word ∈ words, ' ' ∉ word)
    (nonempty : words ≠ []) :
    ofText text = ofWords words := by
  rw [ofText, joined, List.splitOn_intercalate ' ' unbroken nonempty]

/-- Words of which the first is none of the three codes are no motion. -/
theorem ofWords_eq_still
    {code : List Char}
    (unknown : code ∉ [['G', '0'], ['G', '1'], ['G', '3']])
    (words : List (List Char)) :
    ofWords (code :: words) = .still := by
  simp only [List.mem_cons, List.not_mem_nil, or_false, not_or] at unknown
  obtain ⟨noRapid, noStraight, noArc⟩ := unknown
  apply ofWords.eq_5
  · intro x y same
    exact noRapid (List.cons.inj same).1
  · intro x y feed same
    exact noStraight (List.cons.inj same).1
  · intro x y i j feed same
    exact noArc (List.cons.inj same).1
  · intro i feed same
    exact noArc (List.cons.inj same).1

/-- A remark is no motion, whatever it says. -/
theorem ofText_commentText (text : String) :
    ofText (commentText text) = .still := by
  have opened :
      (commentText text).toList = '(' :: (text.toList ++ [')']) := by
    simp [commentText]
  obtain ⟨word, words, further⟩ :=
    List.exists_cons_of_ne_nil
      (List.splitOn_ne_nil ' ' (text.toList ++ [')']))
  rw [ofText, opened, List.splitOn_cons_eq_if_modifyHead, further]
  exact ofWords_eq_still (by simp) words

end Motion

/-- What the text of a line tells a machine that knows which words switch the
tool. -/
def ProgramLine.readMotion : ProgramLine → Motion (List Char)
  | .spindleOn _ => .engage
  | .spindleOff _ => .lift
  | line => Motion.ofText line.text

namespace ProgramLine

open Number (fixedCharacters fixedText blank_notMem_fixedCharacters)

/-- The words of the lines that move a machine. -/
def words : ProgramLine → List (List Char)
  | rapid target =>
    [ ['G', '0'], 'X' :: fixedCharacters target.x,
      'Y' :: fixedCharacters target.y ]
  | cut target feed =>
    [ ['G', '1'], 'X' :: fixedCharacters target.x,
      'Y' :: fixedCharacters target.y, 'F' :: fixedCharacters feed ]
  | arc target offset feed =>
    [ ['G', '3'], 'X' :: fixedCharacters target.x,
      'Y' :: fixedCharacters target.y, 'I' :: fixedCharacters offset.x,
      'J' :: fixedCharacters offset.y, 'F' :: fixedCharacters feed ]
  | circle radius feed =>
    [ ['G', '3'], 'I' :: fixedCharacters radius, ['J', '0'],
      'F' :: fixedCharacters feed ]
  | _ => []

-- Rewriting with the definition itself would look into the numbers.
theorem arcText_eq (target offset : Point) (feed : Float) :
    arcText target offset feed =
      "G3 X" ++ fixedText target.x ++ " Y" ++ fixedText target.y
        ++ " I" ++ fixedText offset.x ++ " J" ++ fixedText offset.y
        ++ " F" ++ fixedText feed :=
  rfl

theorem toList_text_eq_words
    {line : ProgramLine}
    (moves : line.words ≠ []) :
    line.text.toList = [' '].intercalate line.words := by
  cases line
  case comment | blank | code | spindleOn | spindleOff | dwell =>
    exact (moves rfl).elim
  all_goals
    simp only [words, text, arcText_eq, circleText, fixedText,
      String.toList_append, String.toList_ofList]
    -- What the numbers look like does not matter any more.
    generalize fixedCharacters = written
    simp [List.intercalate, List.intersperse]

theorem blank_notMem_words (line : ProgramLine) :
    ∀ word ∈ line.words, ' ' ∉ word := by
  cases line <;> simp [words, blank_notMem_fixedCharacters]

theorem ofWords_words
    {line : ProgramLine}
    (moves : line.words ≠ []) :
    Motion.ofWords line.words = line.motion.map fixedCharacters := by
  cases line with
  | rapid target => rfl
  | cut target feed => rfl
  | arc target offset feed => rfl
  | circle radius feed => rfl
  | _ => exact (moves rfl).elim

/-- The text of a line that moves a machine is cut into its words. -/
theorem ofText_text
    {line : ProgramLine}
    (moves : line.words ≠ []) :
    Motion.ofText line.text = line.motion.map fixedCharacters := by
  rw [← ofWords_words moves]
  exact Motion.ofText_eq_ofWords (toList_text_eq_words moves)
    line.blank_notMem_words moves

/-- The code of a wait is no code of a motion. -/
theorem ofText_dwell (milliseconds : UInt32) :
    Motion.ofText (dwell milliseconds).text = .still := by
  have opened :
      (dwell milliseconds).text.toList =
        ['G', '4'] ++
          ' ' :: 'P' :: (toString milliseconds.toNat).toList := by
    simp [text]
  rw [Motion.ofText, opened,
    List.splitOn_append_cons_self_of_not_mem (by simp)]
  exact Motion.ofWords_eq_still (by simp) _

/-- Every line says in its words what it is meant to tell, except for code that
is passed on unseen. -/
theorem readMotion_eq
    {line : ProgramLine}
    (known : ∀ text, line ≠ code text) :
    line.readMotion = line.motion.map fixedCharacters := by
  cases line with
  | comment text => exact Motion.ofText_commentText text
  | blank => rfl
  | code text => exact (known text rfl).elim
  | rapid target => exact ofText_text (List.cons_ne_nil _ _)
  | cut target feed => exact ofText_text (List.cons_ne_nil _ _)
  | arc target offset feed => exact ofText_text (List.cons_ne_nil _ _)
  | circle radius feed => exact ofText_text (List.cons_ne_nil _ _)
  | spindleOn word => rfl
  | spindleOff word => rfl
  | dwell milliseconds => exact ofText_dwell milliseconds

end ProgramLine

/-! ## Bodies hold no code that is passed on -/

@[simp]
theorem code_notMem_dwellLines (text : String) (milliseconds : UInt32) :
    .code text ∉ dwellLines milliseconds := by
  rw [dwellLines]
  split <;> simp

@[simp]
theorem code_notMem_engageLines (text : String) (machine : MachineSettings) :
    .code text ∉ machine.engageLines := by
  simp [MachineSettings.engageLines]

@[simp]
theorem code_notMem_liftLines (text : String) (machine : MachineSettings) :
    .code text ∉ machine.liftLines := by
  simp [MachineSettings.liftLines]

namespace Tool

/-- Code is written only where a call passes it on. -/
theorem code_notMem_write
    (machine : MachineSettings)
    (tool : Tool)
    {call : Call}
    {text : String}
    (known : call ≠ .code text) :
    .code text ∉ tool.write machine call := by
  cases call with
  | code other =>
      simpa [write, eq_comm] using known
  | go target => cases engaged : tool.engaged <;> simp [write, engaged]
  | draw target => cases engaged : tool.engaged <;> simp [write, engaged]
  | start => exact code_notMem_engageLines text machine
  | stop => exact code_notMem_liftLines text machine
  | comment remark => simp [write]
  | separator => simp [write]
  | arc target offset => simp [write]
  | circle radius => simp [write]
  | setPosition position => simp [write]

theorem code_notMem_writeAll
    (machine : MachineSettings)
    (tool : Tool)
    {calls : List Call}
    {text : String}
    (known : .code text ∉ calls) :
    .code text ∉ tool.writeAll machine calls := by
  induction calls generalizing tool with
  | nil => simp [writeAll]
  | cons call calls hypothesis =>
      rw [List.mem_cons, not_or] at known
      intro member
      rcases List.mem_append.mp member with first | later
      · exact code_notMem_write machine tool (Ne.symm known.1) first
      · exact hypothesis (tool.after call) known.2 later

end Tool

theorem Entity.code_notMem_calls (entity : Entity) (text : String) :
    .code text ∉ entity.calls := by
  cases entity with
  | line shape => simp [Line.calls]
  | circle shape => simp [Circle.calls]
  | arc shape => simp [Arc.calls]
  | ellipse shape => simp
  | polyline shape => simp [PolyLine.calls, Chain.calls, drawThrough]

theorem code_notMem_callsOf (entities : List Entity) (text : String) :
    .code text ∉ callsOf entities := by
  intro member
  obtain ⟨entity, -, part⟩ := List.mem_flatMap.mp member
  exact entity.code_notMem_calls text part

theorem Settings.code_notMem_body
    (settings : Settings)
    (entities : List Entity)
    (text : String) :
    .code text ∉ (settings.programOf entities).body :=
  Tool.code_notMem_writeAll settings.machine Tool.initial
    (code_notMem_callsOf entities text)

/-! ## Whole programs -/

/-- What a body tells in its words is what it is meant to tell. -/
theorem Settings.readMotion_body
    (settings : Settings)
    (entities : List Entity) :
    (settings.programOf entities).body.map ProgramLine.readMotion =
      ((settings.programOf entities).body.map ProgramLine.motion).map
        (Motion.map Number.fixedCharacters) := by
  rw [List.map_map]
  apply List.map_congr_left
  intro line member
  apply ProgramLine.readMotion_eq
  rintro text rfl
  exact settings.code_notMem_body entities text member

/--
Under valid settings, the body of every program draws the strokes of its
entities in the order in which they are arranged, and nothing else.  A machine
that reads the text of the lines draws the same strokes, with coordinates as
they are written to two decimal places.
-/
theorem compile_draws_entities
    (valid : ValidSettings)
    (entities : List Entity)
    (program : Program)
    (compiled : valid.compile entities = .ok program) :
    Plotter.initial.drawAll (program.body.map ProgramLine.motion) =
        (valid.settings.arrange entities).flatMap Entity.strokes ∧
      Plotter.initial.drawAll (program.body.map ProgramLine.readMotion) =
        ((valid.settings.arrange entities).flatMap Entity.strokes).map
          (Stroke.map Number.fixedCharacters) := by
  obtain ⟨-, rfl⟩ := ValidSettings.compile_eq_ok_iff.mp compiled
  have drawn := valid.settings.drawAll_body
    (valid.settings.arrange entities)
  refine ⟨drawn, ?_⟩
  rw [Settings.readMotion_body, ← drawn]
  exact Plotter.drawAll_map Number.fixedCharacters Plotter.initial _

/-- A drawing with a shape of every kind, between them some that are not
drawn. -/
theorem sample_draws_entities :
    ∃ program,
      Sample.settings.compile Sample.drawing = .ok program ∧
        Plotter.initial.drawAll (program.body.map ProgramLine.motion) =
          Sample.drawing.flatMap Entity.strokes ∧
        Plotter.initial.drawAll
            (program.body.map ProgramLine.readMotion) =
          (Sample.drawing.flatMap Entity.strokes).map
            (Stroke.map Number.fixedCharacters) :=
  ⟨_, rfl,
    compile_draws_entities Sample.settings Sample.drawing _ rfl⟩

end Toolpath
