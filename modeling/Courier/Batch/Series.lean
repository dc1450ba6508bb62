import Courier.Batch.Schedule

/-!
# Requests one after the other, on any schedule

`Series` carries out requests in order in one world: a faulty one is refused, and the batch of any
other goes by a schedule of its own until it is over, before the next request begins. `callsAll`
lists the calls of a sink that answers at once, as `dispatchAll` lists the reports on it.
-/

namespace Courier.Batch

variable {σ : Type} [Sink σ]

/-- Requests are carried out in order at this concurrency, by these steps and with these verdicts,
and leave a world behind. -/
inductive Series (concurrency : Nat) :
    World σ → List Request → List Act → List Verdict → World σ → Prop where
  | nil (world : World σ) : Series concurrency world [] [] [] world
  | refused {world left : World σ} {request : Request} {rest : List Request}
    {cause : DispatchError} {acts : List Act} {verdicts : List Verdict}
    (refusal : start concurrency request world = .error cause)
    (later : Series concurrency world rest acts verdicts left) :
    Series concurrency world (request :: rest) acts (.refused cause :: verdicts) left
  | carried {world left : World σ} {request : Request} {rest : List Request} {run last : Run σ}
    {acts acts' : List Act} {verdicts : List Verdict}
    (accepted : start concurrency request world = .ok run) (path : Run.Schedule run acts last)
    (ended : last.isOver = true)
    (later : Series concurrency last.world rest acts' verdicts left) :
    Series concurrency world (request :: rest) (acts ++ acts')
      ((Run.Ending.complete last).report.1.verdict :: verdicts) left

/-- How many messages requests ask for in all. -/
def messageCount (requests : List Request) : Nat :=
  requests.foldr (fun request n => request.count + n) 0

/-- How many messages those of the requests that are in order ask for in all. -/
def acceptedCount (requests : List Request) : Nat :=
  messageCount (requests.filter (·.accept.isOk))

/-! ## The calls of a sink that answers at once -/

/-- The calls when one request is run. -/
def callsOf (concurrency : Nat) (request : Request) (world : World σ) : List Call :=
  match start concurrency request world with
  | .error _ => []
  | .ok run => run.callsToEnd

/-- The calls when requests are run in order. -/
def callsAll (concurrency : Nat) : List Request → World σ → List Call
  | [], _ => []
  | request :: rest, world =>
    callsOf concurrency request world ++
      callsAll concurrency rest (dispatch concurrency request world).2

variable {concurrency : Nat} {request : Request} {world : World σ}

/-- A refused request makes no calls. -/
theorem callsOf_of_refused {cause : DispatchError}
    (refusal : start concurrency request world = .error cause) :
    callsOf concurrency request world = [] := by
  rw [callsOf, refusal]

/-- An accepted request makes the calls of its batch. -/
theorem callsOf_of_accepted {run : Run σ}
    (accepted : start concurrency request world = .ok run) :
    callsOf concurrency request world = run.callsToEnd := by
  rw [callsOf, accepted]

end Courier.Batch
