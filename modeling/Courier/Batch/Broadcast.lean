import Courier.Batch.Schedule

/-!
# Batches that are followed

The events of a batch can be followed through a channel: the batch puts them in at one end, and
whoever follows it takes them out at the other. An event is in hand from the moment it arises until
it is put in, and until then nothing happens in the batch but that it may be cancelled; so it waits
while the channel is full. If nobody follows the batch, or nobody does any more, its events are lost
and it does not wait.

`Broadcast.Step` lists what can happen next in a batch together with its channel, whatever its sends
are like and whenever somebody takes an event out or leaves. `Broadcast.Path` is any number of such
steps, with what the batch did on the way.
-/

namespace Courier.Batch

/-- Where the events of a batch go. -/
inductive Line where
  /-- Nobody follows the batch. -/
  | absent
  /-- Somebody does: the events in the channel and those taken out of it, each in order. -/
  | connected (queue received : List Event)
  /-- Somebody did, and took these events out. -/
  | dropped (received : List Event)

namespace Line

/-- How many events there is room for in a channel. -/
def capacity : Nat := 256

/-- A channel in which nothing was put yet. -/
def fresh : Line :=
  .connected [] []

/-- Puts in an event, or waits if there is no room. -/
def put? (e : Event) : Line → Option Line
  | .absent => some .absent
  | .connected queue received =>
    if queue.length < capacity then some (.connected (queue ++ [e]) received) else none
  | .dropped received => some (.dropped received)

/-- The events that were not lost. -/
def events : Line → List Event
  | .absent => []
  | .connected queue received => received ++ queue
  | .dropped received => received

end Line

/-- The event that a step gives rise to. -/
def Act.event? (act : Act) : Option Event :=
  act.outcome?.map .outcome

/-- Where a batch stands that may be followed. -/
inductive Stage (σ : Type) where
  /-- It is under way, with an event in hand or none. -/
  | going (r : Run σ) (hand : Option Event)
  | ended (verdict : Verdict) (world : World σ)

/-- The batch after the event in hand is gone. The last event is the one with the result. -/
def Stage.after {σ : Type} (r : Run σ) : Event → Stage σ
  | .finished result => .ended (.done result) r.world
  | _ => .going r none

/-- What is left of the world by then. -/
def Stage.world {σ : Type} : Stage σ → World σ
  | .going r _ => r.world
  | .ended _ world => world

/-- A batch with the way its events go. -/
structure Broadcast (σ : Type) where
  stage : Stage σ
  line : Line

variable {σ : Type}

/-- A request whose events go this way. One that is refused ends at once. -/
def spawn (concurrency : Nat) (request : Request) (world : World σ) (line : Line) : Broadcast σ :=
  match start concurrency request world with
  | .error cause => ⟨.ended (.refused cause) world, line⟩
  | .ok run => ⟨.going run (some (.started request.count)), line⟩

namespace Broadcast

variable [Sink σ]

/-- What can happen next, and what the batch does in it. -/
inductive Step : Broadcast σ → List Act → Broadcast σ → Prop where
  /-- The batch takes a step of its own, or it is cancelled from outside. -/
  | act {r r' : Run σ} {hand : Option Event} {line : Line} {act : Act} (next : r.Step act r')
    (free : hand = none ∨ act = .cancel) :
    Step ⟨.going r hand, line⟩ [act] ⟨.going r' (act.event?.or hand), line⟩
  /-- An iteration cannot be taken. -/
  | halt {r : Run σ} {line : Line} {cause : Halt} {left : World σ} (room : r.canTake = true)
    (halted : r.take = .halted cause left) :
    Step ⟨.going r none, line⟩ [] ⟨.ended (Run.Ending.halted cause left).report.1.verdict left, line⟩
  /-- All is done, and the result is in hand. -/
  | conclude {r : Run σ} {line : Line} (complete : r.isOver = true) :
    Step ⟨.going r none, line⟩ [] ⟨.going r (some (.finished r.tally.finalize)), line⟩
  /-- The event in hand is put in or lost. -/
  | put {r : Run σ} {e : Event} {line line' : Line} (room : line.put? e = some line') :
    Step ⟨.going r (some e), line⟩ [] ⟨.after r e, line'⟩
  | receive {stage : Stage σ} {e : Event} {queue received : List Event} :
    Step ⟨stage, .connected (e :: queue) received⟩ [] ⟨stage, .connected queue (received ++ [e])⟩
  | leave {stage : Stage σ} {queue received : List Event} :
    Step ⟨stage, .connected queue received⟩ [] ⟨stage, .dropped received⟩

/-- One state becomes another by steps in any order. -/
inductive Path (b : Broadcast σ) : List Act → Broadcast σ → Prop where
  | refl : Path b [] b
  | step {acts acts' : List Act} {c d : Broadcast σ} (path : Path b acts c) (next : Step c acts' d) :
    Path b (acts ++ acts') d

/-- A path goes on where another one ends. -/
theorem Path.trans {a b c : Broadcast σ} {acts acts' : List Act} (ab : Path a acts b)
    (bc : Path b acts' c) : Path a (acts ++ acts') c := by
  induction bc with
  | refl => rwa [List.append_nil]
  | step _ next ih =>
    rw [← List.append_assoc]
    exact .step ih next

/-- One step is a path. -/
theorem Path.single {a b : Broadcast σ} {acts : List Act} (next : Step a acts b) : Path a acts b :=
  .step .refl next

/-- A step in front of others. -/
theorem Path.head {a b c : Broadcast σ} {acts acts' : List Act} (ab : Step a acts b)
    (bc : Path b acts' c) : Path a (acts ++ acts') c :=
  .trans (.single ab) bc

end Broadcast

end Courier.Batch
