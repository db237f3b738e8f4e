import Toolpath.Motion.Emission
import Toolpath.Program.Line

/-!
# Recordings

A recording keeps the calls it receives as they arrive and does nothing else:
remarks, separators and round cuts arrive as finished lines of code.
-/

namespace Toolpath

/-- A call as it arrives at a recording. -/
inductive Record where
  | code (text : String)
  | go (target : Point)
  | draw (target : Point)
  | start
  | stop
  | setPosition (position : Point)

/-- How a call arrives at a recording with the given feed. -/
def Call.record (feed : Float) : Call → Record
  | .comment text => .code (commentText text)
  | .separator => .code ""
  | .code text => .code text
  | .go target => .go target
  | .draw target => .draw target
  | .arc target offset => .code (arcText target offset feed)
  | .circle radius => .code (circleText radius feed)
  | .start => .start
  | .stop => .stop
  | .setPosition position => .setPosition position

/-- The position that a call tells of. -/
def Record.position? : Record → Option Point
  | .go target => some target
  | .draw target => some target
  | .setPosition position => some position
  | _ => none

/-- The calls received so far, and the last position they told of. -/
structure Recording where
  records : List Record
  position : Option Point

/-- What is recorded of an emission; one that fails records nothing. -/
def Recording.ofEntity
    (feed : Float)
    (entity : Entity) :
    Recording × Option EntityError :=
  match entity.calls? with
  | .ok calls =>
    let records := calls.map (Call.record feed)
    (⟨records, records.reverse.findSome? Record.position?⟩, none)
  | .error cause => (⟨[], none⟩, some cause)

end Toolpath
