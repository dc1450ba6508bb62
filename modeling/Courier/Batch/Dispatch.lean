import Courier.Batch.Run

/-!
# Dispatching requests

A request is accepted or refused, an accepted one is run to its end, and requests follow each other
in one world: one clock, one supply of identifiers, one sink and one cancellation for all.
-/

namespace Courier.Batch

/-- How a request ends. -/
inductive Verdict where
  | done (result : BatchResult)
  | refused (cause : DispatchError)
  /-- A reading of the clock fell outside the range of instants. -/
  | clockOutOfRange
deriving DecidableEq, Repr

/-- How a request ended, and the events on the way. -/
structure Report where
  verdict : Verdict
  events : List Event
deriving DecidableEq, Repr

variable {σ : Type}

/-- The batch of a request that is accepted. A concurrency of zero counts as one. -/
def start (concurrency : Nat) (request : Request) (world : World σ) :
    Except DispatchError (Run σ) :=
  request.accept.map fun template => .begin request template (max 1 concurrency) world

/-- The report on a batch that has ended. -/
def Run.Ending.report : Run.Ending σ → Report × World σ
  | .complete r =>
    let result := r.tally.finalize
    (⟨.done result, (.finished result :: r.events).reverse⟩, r.world)
  | .halted .clockOutOfRange world => (⟨.clockOutOfRange, []⟩, world)
  | .halted (.template cause) world => (⟨.refused (.template cause), []⟩, world)

/-- Runs one request. -/
def dispatch [Sink σ] (concurrency : Nat) (request : Request) (world : World σ) :
    Report × World σ :=
  match start concurrency request world with
  | .error e => (⟨.refused e, []⟩, world)
  | .ok run => run.toEnd.report

/-- Runs requests in order; each report comes with whether the batches were cancelled by then. -/
def dispatchAll [Sink σ] (concurrency : Nat) : List Request → World σ →
    List (Report × Bool) × World σ
  | [], world => ([], world)
  | request :: rest, world =>
    let (report, world) := dispatch concurrency request world
    let (reports, last) := dispatchAll concurrency rest world
    ((report, world.cancelled) :: reports, last)

/-! ## Laws -/

variable [Sink σ] {concurrency : Nat} {request : Request} {world : World σ}

/-- A refused request leaves the world alone and emits nothing. -/
theorem dispatch_of_refused {cause : DispatchError}
    (refusal : start concurrency request world = .error cause) :
    dispatch concurrency request world = (⟨.refused cause, []⟩, world) := by
  rw [dispatch, refusal]

/-- A batch that runs to its end reports what it came to there. -/
theorem dispatch_of_complete {run last : Run σ}
    (accepted : start concurrency request world = .ok run) (ending : run.toEnd = .complete last) :
    dispatch concurrency request world = (Run.Ending.complete last).report := by
  rw [dispatch, accepted]
  dsimp only
  rw [ending]

end Courier.Batch
