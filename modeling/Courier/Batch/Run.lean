import Courier.Batch.Request
import Courier.Batch.Sink
import Courier.Time.Clock

/-!
# A batch in progress

An iteration is *taken* when its message is made, which reads the clock once; it is *started* when
its message is handed to the sink, and *finished* when its outcome is recorded. Iterations are taken
and started in the order of their indices. At most `window` of them are taken and not yet finished.
Once the batch is cancelled, none is taken and none is started any more; those that were taken and
not started are dropped.

`Run.advance` is the schedule of a sink that answers at once: an outcome is recorded as soon as it
is known, iterations are taken while there is room, and the first of them is started then.
-/

namespace Courier.Batch

open Courier.Template

/-- What a batch uses and changes. -/
structure World (σ : Type) where
  clock : Time.Clock
  supply : UuidSupply
  sink : σ
  /-- The batch, and every later one, is to stop. -/
  cancelled : Bool := false

/-- Progress of a batch, as others may follow it. -/
inductive Event where
  | started (count : Nat)
  | outcome (o : Outcome)
  | finished (result : BatchResult)
deriving DecidableEq, Repr

/-- A batch whose request was accepted. -/
structure Run (σ : Type) where
  request : Request
  template : CompiledTemplate
  /-- How many iterations may be taken and not yet finished. -/
  window : Nat
  /-- How many iterations were taken. -/
  taken : Nat
  /-- The iterations taken and not yet started, in order. -/
  waiting : List (Nat × Message)
  /-- The iterations started and not yet finished, in order, with the outcomes they will have. -/
  inFlight : List Outcome
  tally : Tally
  /-- The events so far, the latest first. -/
  events : List Event
  world : World σ

/-- Why a batch stops before its end. -/
inductive Halt where
  /-- A reading of the clock fell outside the range of instants. -/
  | clockOutOfRange
  | template (cause : TemplateError)
deriving DecidableEq, Repr

/-- A batch after a step. -/
inductive Progress (σ : Type) where
  | running (r : Run σ)
  | halted (cause : Halt) (world : World σ)
  | complete

namespace Run

variable {σ : Type}

/-- The start of a batch. -/
def begin (request : Request) (template : CompiledTemplate) (window : Nat) (world : World σ) :
    Run σ :=
  { request, template, window, world
    taken := 0
    waiting := []
    inFlight := []
    tally := .start request.count
    events := [.started request.count] }

/-- There is an iteration left to take, and room for it. -/
def canTake (r : Run σ) : Bool :=
  !r.world.cancelled && r.taken < r.request.count && r.waiting.length + r.inFlight.length < r.window

/-- Takes the next iteration: reads the clock and makes the message. -/
def take (r : Run σ) : Progress σ :=
  let (reading, clock) := r.world.clock.read
  match reading with
  | none => .halted .clockOutOfRange { r.world with clock }
  | some instant =>
    let index := r.taken + 1
    let (made, desk) := r.template.materializeIn (.make index instant false) r.world.supply
    let world := { r.world with clock, supply := desk.supply }
    match made with
    | .error e => .halted (.template e) world
    | .ok message =>
      .running { r with taken := index, waiting := r.waiting ++ [(index, message)], world }

/-- Starts an iteration, the first of those waiting, or drops it after a cancellation. -/
def start [Sink σ] (r : Run σ) (first : Nat × Message) (rest : List (Nat × Message)) : Run σ :=
  if r.world.cancelled then { r with waiting := rest }
  else
    let receipt := Sink.send r.world.sink ⟨r.request.server, r.request.topic, first.2⟩
    { r with
      waiting := rest
      inFlight := r.inFlight ++ [Outcome.ofResult first.1 receipt.result]
      world := { r.world with sink := receipt.sink, cancelled := receipt.cancels } }

/-- Records an outcome; `rest` are the other iterations in flight. -/
def finish (r : Run σ) (o : Outcome) (rest : List Outcome) : Run σ :=
  { r with inFlight := rest, tally := r.tally.record o, events := .outcome o :: r.events }

/-- The next step when sends are answered at once. -/
def advance [Sink σ] (r : Run σ) : Progress σ :=
  match r.inFlight with
  | o :: rest => .running (r.finish o rest)
  | [] =>
    -- The window is filled before anything is sent.
    if r.canTake then r.take
    else
      match r.waiting with
      | first :: rest => .running (r.start first rest)
      | [] => .complete

/-- An outcome in flight is recorded before anything else happens. -/
theorem advance_of_inFlight [Sink σ] {r : Run σ} {o : Outcome} {rest : List Outcome}
    (flies : r.inFlight = o :: rest) : r.advance = .running (r.finish o rest) := by
  rw [advance, flies]

/-- With nothing in flight, a message is made as long as there is room for one. -/
theorem advance_of_room [Sink σ] {r : Run σ} (landed : r.inFlight = []) (room : r.canTake = true) :
    r.advance = r.take := by
  rw [advance, landed]
  exact if_pos room

/-- When no more messages can be made, the first one that waits is sent. -/
theorem advance_of_waiting [Sink σ] {r : Run σ} {first : Nat × Message}
    {rest : List (Nat × Message)} (landed : r.inFlight = []) (full : r.canTake = false)
    (waits : r.waiting = first :: rest) : r.advance = .running (r.start first rest) := by
  rw [advance, landed]
  dsimp only
  rw [full, waits]
  rfl

/-- How many steps are left at most. -/
def remaining (r : Run σ) : Nat :=
  3 * (r.request.count - r.taken) + 2 * r.waiting.length + r.inFlight.length

/-- A message can be made while the batch is live, not all are made and fewer are held than fit in
the window. -/
theorem canTake_iff {r : Run σ} :
    r.canTake = true ↔ r.world.cancelled = false ∧ r.taken < r.request.count ∧
      r.waiting.length + r.inFlight.length < r.window := by
  simp only [canTake, Bool.and_eq_true, Bool.not_eq_true', decide_eq_true_eq, and_assoc]

/-- An iteration is taken with one reading of the clock, from which its message is made. Nothing
changes but the number taken, what waits, the clock and the supply. -/
theorem take_eq_running {r r' : Run σ} (h : r.take = .running r') :
    ∃ instant message desk, r.world.clock.reading r.world.clock.reads = some instant ∧
      r.template.materializeIn (.make (r.taken + 1) instant false) r.world.supply =
        (.ok message, desk) ∧
      r' = { r with
        taken := r.taken + 1
        waiting := r.waiting ++ [(r.taken + 1, message)]
        world := { r.world with clock := r.world.clock.read.2, supply := desk.supply } } := by
  simp only [take] at h
  split at h
  · cases h
  · rename_i instant hreading
    split at h
    · cases h
    · rename_i message hmade
      cases h
      exact ⟨instant, message, _, hreading, Prod.ext hmade rfl, rfl⟩

/-- An iteration cannot be taken when the clock fails or its message cannot be made. A reading is
taken in either case. -/
theorem take_eq_halted {r : Run σ} {cause : Halt} {world : World σ}
    (h : r.take = .halted cause world) :
    world.clock = r.world.clock.read.2 ∧
      ((cause = .clockOutOfRange ∧ r.world.clock.reading r.world.clock.reads = none) ∨
        ∃ instant e desk, cause = .template e ∧
          r.template.materializeIn (.make (r.taken + 1) instant false) r.world.supply =
            (.error e, desk)) := by
  simp only [take] at h
  split at h
  · rename_i hreading
    cases h
    exact ⟨rfl, Or.inl ⟨rfl, hreading⟩⟩
  · rename_i instant hreading
    split at h
    · rename_i e hmade
      cases h
      exact ⟨rfl, Or.inr ⟨instant, e, _, rfl, Prod.ext hmade rfl⟩⟩
    · cases h

/-- Making a message never ends a batch as complete. -/
theorem take_ne_complete (r : Run σ) : r.take ≠ .complete := by
  simp only [take]
  split
  · simp
  · split <;> simp

/-- Each step leaves less to be done, so that a batch ends. -/
theorem remaining_lt_of_advance [Sink σ] {r r' : Run σ} (h : r.advance = .running r') :
    r'.remaining < r.remaining := by
  unfold advance at h
  split at h
  · rename_i o rest hf
    cases h
    simp [remaining, finish, hf]
  · rename_i hf
    split at h
    · rename_i hc
      obtain ⟨instant, message, desk, -, -, rfl⟩ := take_eq_running h
      obtain ⟨-, hcount, -⟩ := canTake_iff.mp hc
      simp only [remaining, List.length_append, List.length_singleton]
      omega
    · split at h
      · rename_i first rest hw
        cases h
        unfold start
        split
        · simp [remaining, hw]
        · simp [remaining, hw, hf]; omega
      · cases h

/-- How a batch ends: what is left of the world, and the state it ended in or why it stopped. -/
inductive Ending (σ : Type) where
  | complete (r : Run σ)
  | halted (cause : Halt) (world : World σ)

/-- Runs a batch to its end. -/
def toEnd [Sink σ] (r : Run σ) : Ending σ :=
  match h : r.advance with
  | .running r' =>
    have := remaining_lt_of_advance h
    toEnd r'
  | .halted cause world => .halted cause world
  | .complete => .complete r
termination_by r.remaining

/-- A run to the end goes by steps. -/
theorem toEnd_eq [Sink σ] (r : Run σ) : r.toEnd = match r.advance with
    | .running r' => r'.toEnd
    | .halted cause world => .halted cause world
    | .complete => .complete r := by
  rw [toEnd]
  split
  all_goals
    rename_i h
    simp only [h]

/-- The end of a batch is that of the batch a step later. -/
theorem toEnd_of_running [Sink σ] {r r' : Run σ} (h : r.advance = .running r') :
    r.toEnd = r'.toEnd := by
  rw [toEnd_eq, h]

theorem toEnd_of_halted [Sink σ] {r : Run σ} {cause : Halt} {world : World σ}
    (h : r.advance = .halted cause world) : r.toEnd = .halted cause world := by
  rw [toEnd_eq, h]

theorem toEnd_of_complete [Sink σ] {r : Run σ} (h : r.advance = .complete) :
    r.toEnd = .complete r := by
  rw [toEnd_eq, h]

end Run

end Courier.Batch
