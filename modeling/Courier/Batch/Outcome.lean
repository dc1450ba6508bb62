import Courier.Record.Encode

/-!
# Outcomes, tallies and results

The outcome of one iteration has the status and the error that are reported of its send. A tally
takes outcomes in any order and counts them by their status; the result of a batch lists them by
index and counts the iterations that have none.
-/

namespace Courier.Batch

/-- Why a message was not delivered. -/
structure TransportError where
  reason : String
deriving DecidableEq, Repr

/-- The status that a send is given. -/
inductive DispatchStatus where
  | succeeded
  | failed
deriving DecidableEq, Repr

/-- What is reported of a send. The status and the error stand side by side, and neither is taken from
the other. -/
structure SendReport where
  status : DispatchStatus
  /-- Why the send failed. -/
  error : Option TransportError
deriving DecidableEq, Repr

/-- A send without an error succeeded, and one with an error failed. -/
def SendReport.ofError? : Option TransportError → SendReport
  | none => ⟨.succeeded, none⟩
  | some e => ⟨.failed, some e⟩

instance : Coe (Option TransportError) SendReport where
  coe := SendReport.ofError?

/-- What became of one iteration, counted from 1. -/
structure Outcome where
  index : Nat
  report : SendReport
deriving DecidableEq, Repr

namespace Outcome

/-- Whether the iteration counts as a success or as a failure. -/
def status (o : Outcome) : DispatchStatus :=
  o.report.status

/-- The error that is told of the iteration. -/
def error (o : Outcome) : Option TransportError :=
  o.report.error

/-- A send that succeeded. -/
def success (index : Nat) : Outcome :=
  ⟨index, (none : Option TransportError)⟩

/-- A send that failed. -/
def failure (index : Nat) (error : TransportError) : Outcome :=
  ⟨index, some error⟩

/-- The outcome of a send with this result. -/
def ofResult (index : Nat) : Except TransportError Unit → Outcome
  | .ok () => success index
  | .error e => failure index e

/-- An outcome with the status of a success. -/
def isSuccess (o : Outcome) : Bool :=
  o.status = .succeeded

/-- The status in words. -/
def statusText (o : Outcome) : String :=
  match o.status with
  | .succeeded => "succeeded"
  | .failed => "failed"

/-- The JSON form, with the error only if there is one. -/
def toJson (o : Outcome) : Json :=
  Record.jsonOfFields <|
    [("index", Record.jsonOfNat o.index), ("status", .string o.statusText)] ++
      match o.error with
      | some e => [("error", Record.jsonOfFields [("reason", .string e.reason)])]
      | none => []

end Outcome

/-- What became of a batch. -/
structure BatchResult where
  /-- How many messages were asked for. -/
  requested : Nat
  succeeded : Nat
  failed : Nat
  /-- How many iterations have no outcome. -/
  cancelled : Nat
  /-- The outcomes by index. -/
  outcomes : List Outcome
deriving DecidableEq, Repr

namespace BatchResult

/-- Nothing failed and nothing was cancelled. -/
def isCompleteSuccess (r : BatchResult) : Bool :=
  r.failed == 0 && r.cancelled == 0

/-- Something was cancelled. -/
def isCancelled (r : BatchResult) : Bool :=
  0 < r.cancelled

/-- The outcomes of sends that failed. -/
def failures (r : BatchResult) : List Outcome :=
  r.outcomes.filter (!·.isSuccess)

/-- A number in decimal. -/
def countText (n : Nat) : String :=
  String.ofList (Decimal.digits n)

/-- One line such as `3 of 5 succeeded, 1 failed, 1 cancelled`; failures and cancellations are left
out when there are none. -/
def summary (r : BatchResult) : String :=
  countText r.succeeded ++ " of " ++ countText r.requested ++ " succeeded" ++
    (if 0 < r.failed then ", " ++ countText r.failed ++ " failed" else "") ++
    (if 0 < r.cancelled then ", " ++ countText r.cancelled ++ " cancelled" else "")

/-- Messages per second over a time of whole seconds and nanoseconds; zero over no time at all. -/
def messagesPerSecond (r : BatchResult) (secs nanos : UInt64) : Float :=
  let time := secs.toFloat + nanos.toFloat / 1000000000.0
  if time > 0.0 then r.succeeded.toUInt64.toFloat / time else 0.0

/-- The JSON form. -/
def toJson (r : BatchResult) : Json :=
  Record.jsonOfFields
    [("requested", Record.jsonOfNat r.requested),
     ("succeeded_count", Record.jsonOfNat r.succeeded),
     ("failed_count", Record.jsonOfNat r.failed),
     ("cancelled", Record.jsonOfNat r.cancelled),
     ("outcomes", .array (r.outcomes.map Outcome.toJson))]

end BatchResult

/-- Outcomes in the order they were recorded in, the latest first, and their numbers. -/
structure Tally where
  requested : Nat
  succeeded : Nat := 0
  failed : Nat := 0
  outcomes : List Outcome := []
deriving DecidableEq, Repr

namespace Tally

/-- The tally of a batch in which nothing has happened. -/
def start (requested : Nat) : Tally :=
  { requested }

/-- Takes one outcome, and counts it by its status. -/
def record (t : Tally) (o : Outcome) : Tally :=
  match o.status with
  | .succeeded => { t with succeeded := t.succeeded + 1, outcomes := o :: t.outcomes }
  | .failed => { t with failed := t.failed + 1, outcomes := o :: t.outcomes }

/-- How many outcomes were recorded. -/
def recorded (t : Tally) : Nat :=
  t.succeeded + t.failed

/-- The result so far. Outcomes of one index keep the order they were recorded in. -/
def finalize (t : Tally) : BatchResult :=
  { requested := t.requested
    succeeded := t.succeeded
    failed := t.failed
    cancelled := t.requested - t.recorded
    outcomes := t.outcomes.reverse.mergeSort fun a b => a.index ≤ b.index }

end Tally

end Courier.Batch
