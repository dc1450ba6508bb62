import Courier.Template.Fault
import Courier.Template.Session

/-!
# What is drawn where

Which identifiers the steps of a session draw, and in which context: only rendering and making a
message draw any, and a message that fails has drawn one for each `{uuid}` before its first fault.
-/

namespace Courier.Template

/-- The placeholders of a template, text by text and from left to right. -/
def MessageTemplate.placeholders (t : MessageTemplate) : List Placeholder :=
  t.texts.flatMap fun (_, text) =>
    match Field.parse text with
    | .error _ => []
    | .ok field => field.placeholders

/-- How many identifiers placeholders in a row use up: one for each `{uuid}` before the first of
them that cannot take its format. -/
def uuidsBeforeFault (ps : List Placeholder) : Nat :=
  (ps.takeWhile (·.directive.isOk)).countP (·.name = .uuid)

/-- The context that a step is to work in, if any. -/
def SessionStep.context? : SessionStep → Option Nat
  | .render number _ _ => some number
  | .materialize number _ => some number
  | _ => none

namespace Session

/-- The session after steps. -/
def after (s : Session) (run : List SessionStep) : Session :=
  (s.steps run).2

/-- A step opens this context, under this number. What is kept in a new context is nothing yet; a
copy starts with what is kept in the original at that moment. -/
inductive Opens (s : Session) : SessionStep → Nat → Context → Prop where
  | create {index : Nat} {instant : Time.Instant} (reading : s.clock.read.1 = some instant) :
    Opens s (.create index) s.contexts.length
      { index, instant, issued := if s.tracking then some [] else none }
  | createAt (index : Nat) (instant : Time.Instant) (tracking : Bool) :
    Opens s (.createAt index instant tracking) s.contexts.length
      { index, instant, issued := if tracking then some [] else none }
  | copy {original : Nat} {c : Context} (found : s.contexts[original]? = some c) :
    Opens s (.copy original) s.contexts.length c

/-- The identifiers that a step draws. -/
def drawnBy (s : Session) (step : SessionStep) : List Uuid :=
  s.supply.upcoming ((s.step step).2.supply.drawn - s.supply.drawn)

/-- The identifiers that a step draws in the context of this number. -/
def drawnIn (s : Session) (number : Nat) (step : SessionStep) : List Uuid :=
  if step.context? = some number then s.drawnBy step else []

/-- The identifiers that steps draw in the context of this number. -/
def drawnOver (s : Session) (number : Nat) : List SessionStep → List Uuid
  | [] => []
  | step :: later => s.drawnIn number step ++ (s.step step).2.drawnOver number later

end Session

end Courier.Template
