import Courier.Template.Tracking

/-!
# What the clock shows

The readings that the steps of a session take from the clock, whether for themselves or for a new
context, in the order in which they are taken.
-/

namespace Courier.Template

/-- A step that reads the clock. -/
def SessionStep.readsClock : SessionStep → Bool
  | .readClock => true
  | .create _ => true
  | _ => false

/-- How often steps read the clock. -/
def readings (run : List SessionStep) : Nat :=
  run.countP (·.readsClock)

/-- The reading that a reply tells of, which may be out of the range of instants. -/
def SessionReply.shown? : SessionReply → Option (Option Time.Instant)
  | .reading t => some (some t)
  | .created _ c => some (some c.instant)
  | .clockOutOfRange => some none
  | _ => none

/-- The readings that the replies to steps tell of. -/
def Session.shown (s : Session) : List SessionStep → List (Option Time.Instant)
  | [] => []
  | step :: later =>
    (if step.readsClock then (s.step step).1.shown?.toList else []) ++ (s.step step).2.shown later

end Courier.Template
