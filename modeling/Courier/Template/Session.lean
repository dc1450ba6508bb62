import Courier.Template.Compiled
import Courier.Time.Clock

/-!
# Sessions

Several contexts can be in use side by side. They share one clock and one supply of identifiers and
nothing else: a step in one context changes neither the other contexts nor the index and the instant
of its own.
-/

namespace Courier.Template

/-- The contexts in use, with the clock and the supply that they share. -/
structure Session where
  clock : Time.Clock
  supply : UuidSupply
  /-- Contexts that take their instant from the clock keep the identifiers drawn in them. -/
  tracking : Bool
  /-- The contexts made so far, numbered from zero. -/
  contexts : List Context := []

/-- What can be done in a session. -/
inductive SessionStep where
  | readClock
  | setTracking (tracking : Bool)
  /-- Makes a context with the next reading of the clock. -/
  | create (index : Nat)
  /-- Makes a context without reading the clock. -/
  | createAt (index : Nat) (instant : Time.Instant) (tracking : Bool)
  /-- Makes a context that is like another one so far. -/
  | copy (context : Nat)
  | render (context : Nat) (name : PlaceholderName) (format : Option String)
  /-- Compiles a template and makes its message. -/
  | materialize (context : Nat) (template : MessageTemplate)

/-- What comes of a step. -/
inductive SessionReply where
  | reading (t : Time.Instant)
  | tracking (tracking : Bool)
  /-- A context was made and has this number. -/
  | created (number : Nat) (context : Context)
  | text (made : Except FormatError String)
  | message (made : Except TemplateError Message)
  /-- The reading of the clock fell outside the range of instants. -/
  | clockOutOfRange
  /-- There is no context of this number. -/
  | noContext

namespace Session

/-- Adds a context. -/
def add (s : Session) (c : Context) : SessionReply × Session :=
  (.created s.contexts.length c, { s with contexts := s.contexts ++ [c] })

/-- The session after a context was used at a desk. -/
def settle (s : Session) (number : Nat) (desk : Desk) : Session :=
  { s with supply := desk.supply, contexts := s.contexts.set number desk.context }

/-- Takes a step. -/
def step (s : Session) : SessionStep → SessionReply × Session
  | .readClock =>
    let (reading, clock) := s.clock.read
    match reading with
    | some t => (.reading t, { s with clock })
    | none => (.clockOutOfRange, { s with clock })
  | .setTracking tracking => (.tracking tracking, { s with tracking })
  | .create index =>
    let (reading, clock) := s.clock.read
    match reading with
    | some t => { s with clock }.add (.make index t s.tracking)
    | none => (.clockOutOfRange, { s with clock })
  | .createAt index instant tracking => s.add (.make index instant tracking)
  | .copy number =>
    match s.contexts[number]? with
    | some c => s.add c
    | none => (.noContext, s)
  | .render number name format =>
    match s.contexts[number]? with
    | some context =>
      let (made, desk) := (Desk.render name format).run.run { context, supply := s.supply }
      (.text made, s.settle number desk)
    | none => (.noContext, s)
  | .materialize number template =>
    match s.contexts[number]?, CompiledTemplate.compile template with
    | some _, .error e => (.message (.error e), s)
    | some context, .ok t =>
      let (made, desk) := t.materializeIn context s.supply
      (.message made, s.settle number desk)
    | none, _ => (.noContext, s)

/-- Takes steps one after the other. -/
def steps (s : Session) : List SessionStep → List SessionReply × Session
  | [] => ([], s)
  | first :: rest =>
    let (reply, s) := s.step first
    let (replies, s) := s.steps rest
    (reply :: replies, s)

end Session

end Courier.Template
