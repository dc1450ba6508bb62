import Courier.Batch.Dispatch

/-!
# Schedules

How the sends of a batch overlap is up to the sink, and a batch may be cancelled at any moment.
`Run.Step` lists what can happen next in a batch, whatever its sends are like: an iteration is taken
if there is room, the first of those waiting is started or dropped, any send in flight is finished,
or the batch is cancelled from outside. Each step is labelled with what it does. `Run.Schedule` is
any number of such steps, with their labels. `Run.advance` always takes one of the steps, so that
the way of a sink that answers at once is one schedule among all; `Run.Prompt` is that way with
cancellations from outside.
-/

namespace Courier.Batch

/-- One call of a sink: what it was given, for which iteration, and what it answered. -/
structure Call where
  index : Nat
  delivery : Delivery
  result : Except TransportError Unit

namespace Call

/-- The outcome that a call leads to. -/
def outcome (c : Call) : Outcome :=
  .ofResult c.index c.result

/-- The iteration of a call with its message. -/
def item (c : Call) : Nat × Template.Message :=
  (c.index, c.delivery.message)

end Call

/-- A sink takes these calls one after the other, gives their answers, and is `t` in the end. -/
inductive Served {σ : Type} [Sink σ] (s : σ) : List Call → σ → Prop where
  | nil : Served s [] s
  | concat {cs : List Call} {t : σ} {c : Call} (earlier : Served s cs t)
    (answer : c.result = (Sink.send t c.delivery).result) :
    Served s (cs ++ [c]) (Sink.send t c.delivery).sink

/-- What a step does. -/
inductive Act where
  /-- An iteration is taken and its message made. -/
  | take (index : Nat) (message : Template.Message)
  /-- An iteration is started: its message is handed to the sink. -/
  | send (call : Call)
  /-- An iteration is dropped after a cancellation. -/
  | drop (index : Nat)
  /-- An outcome is recorded. -/
  | finish (o : Outcome)
  /-- The batch is cancelled from outside. -/
  | cancel

namespace Act

/-- The call of the sink that a step makes. -/
def call? : Act → Option Call
  | .send c => some c
  | _ => none

/-- The outcome that a step records. -/
def outcome? : Act → Option Outcome
  | .finish o => some o
  | _ => none

/-- The iteration that a step takes, with its message. -/
def item? : Act → Option (Nat × Template.Message)
  | .take index message => some (index, message)
  | _ => none

/-- The iteration that a step drops. -/
def dropped? : Act → Option Nat
  | .drop index => some index
  | _ => none

/-- The iteration that waits no longer after a step. -/
def settled? : Act → Option Nat
  | .send c => some c.index
  | .drop index => some index
  | _ => none

end Act

/-- The calls of the sink, in order. -/
def calls (acts : List Act) : List Call :=
  acts.filterMap Act.call?

theorem calls_cons (act : Act) (acts : List Act) :
    calls (act :: acts) = act.call?.toList ++ calls acts := by
  rw [calls, List.filterMap_cons]
  cases act.call? <;> rfl

theorem calls_append (acts acts' : List Act) : calls (acts ++ acts') = calls acts ++ calls acts' :=
  List.filterMap_append

/-- The outcomes in the order they were recorded in. -/
def finished (acts : List Act) : List Outcome :=
  acts.filterMap Act.outcome?

/-- The iterations that were taken, with their messages, in order. -/
def made (acts : List Act) : List (Nat × Template.Message) :=
  acts.filterMap Act.item?

/-- The iterations that were dropped, in order. -/
def dropped (acts : List Act) : List Nat :=
  acts.filterMap Act.dropped?

/-- The iterations that were started or dropped, in order. -/
def settled (acts : List Act) : List Nat :=
  acts.filterMap Act.settled?

namespace Run

variable {σ : Type} [Sink σ]

/-- Cancels the batch from outside. -/
def cancel (r : Run σ) : Run σ :=
  { r with world := { r.world with cancelled := true } }

/-- Nothing is left to take, to start or to finish. -/
def isOver (r : Run σ) : Bool :=
  !r.canTake && r.waiting.isEmpty && r.inFlight.isEmpty

omit [Sink σ] in
/-- A batch is over when nothing can be made, nothing waits and nothing is in flight. -/
theorem isOver_iff {r : Run σ} :
    r.isOver = true ↔ r.canTake = false ∧ r.waiting = [] ∧ r.inFlight = [] := by
  simp only [isOver, Bool.and_eq_true, Bool.not_eq_true', List.isEmpty_iff, and_assoc]

/-- The call that starts an iteration. -/
def call (r : Run σ) (first : Nat × Template.Message) : Call :=
  let delivery := ⟨r.request.server, r.request.topic, first.2⟩
  ⟨first.1, delivery, (Sink.send r.world.sink delivery).result⟩

/-- What can happen next in a batch. -/
inductive Step (r : Run σ) : Act → Run σ → Prop where
  | take {r' : Run σ} {message : Template.Message} (room : r.canTake = true)
    (made : r.take = .running r') (waits : r'.waiting = r.waiting ++ [(r.taken + 1, message)]) :
    Step r (.take (r.taken + 1) message) r'
  | send (first : Nat × Template.Message) (rest : List (Nat × Template.Message))
    (waits : r.waiting = first :: rest) (live : r.world.cancelled = false) :
    Step r (.send (r.call first)) (r.start first rest)
  | drop (first : Nat × Template.Message) (rest : List (Nat × Template.Message))
    (waits : r.waiting = first :: rest) (cancelled : r.world.cancelled = true) :
    Step r (.drop first.1) (r.start first rest)
  | finish (before : List Outcome) (o : Outcome) (after : List Outcome)
    (flies : r.inFlight = before ++ o :: after) :
    Step r (.finish o) (r.finish o (before ++ after))
  | cancel : Step r .cancel r.cancel

/-- One batch becomes another by steps in any order. -/
inductive Schedule (r : Run σ) : List Act → Run σ → Prop where
  | refl : Schedule r [] r
  | step {acts : List Act} {act : Act} {r' r'' : Run σ} (path : Schedule r acts r')
    (next : Step r' act r'') : Schedule r (acts ++ [act]) r''

/-- A schedule goes on where another one ends. -/
theorem Schedule.trans {a b c : Run σ} {acts acts' : List Act} (ab : Schedule a acts b)
    (bc : Schedule b acts' c) : Schedule a (acts ++ acts') c := by
  induction bc with
  | refl => rwa [List.append_nil]
  | step _ next ih =>
    rw [← List.append_assoc]
    exact .step ih next

/-- A step in front of a schedule. -/
theorem Schedule.head {a b c : Run σ} {act : Act} {acts : List Act} (ab : Step a act b)
    (bc : Schedule b acts c) : Schedule a (act :: acts) c :=
  .trans (.step .refl ab) bc

/-! ## The schedule of a sink that answers at once -/

/-- Making a message is a step. -/
theorem step_of_take {r r' : Run σ} (room : r.canTake = true) (made : r.take = .running r') :
    ∃ message, Step r (.take (r.taken + 1) message) r' := by
  obtain ⟨instant, message, desk, -, -, rfl⟩ := take_eq_running made
  exact ⟨message, .take room made rfl⟩

/-- Starting the first message that waits is a step, whether it is sent or dropped. -/
theorem step_of_start {r : Run σ} {first : Nat × Template.Message}
    {rest : List (Nat × Template.Message)} (waits : r.waiting = first :: rest) :
    ∃ act, act ≠ .cancel ∧ Step r act (r.start first rest) := by
  cases h : r.world.cancelled with
  | false => exact ⟨_, by simp, .send first rest waits h⟩
  | true => exact ⟨_, by simp, .drop first rest waits h⟩

/-- Nothing happens any more in a batch that is over. -/
theorem advance_of_isOver {r : Run σ} (h : r.isOver = true) : r.advance = .complete := by
  obtain ⟨hroom, hwaiting, hflies⟩ := isOver_iff.mp h
  rw [advance, hflies]
  dsimp only
  rw [hroom, hwaiting]
  rfl

/-- The call that the next step makes, if it starts an iteration. -/
def nextCall? (r : Run σ) : Option Call :=
  match r.inFlight, r.waiting with
  | [], first :: _ => if r.canTake || r.world.cancelled then none else some (r.call first)
  | _, _ => none

/-- The calls in a batch that is run to its end. -/
def callsToEnd (r : Run σ) : List Call :=
  match h : r.advance with
  | .running r' =>
    have := remaining_lt_of_advance h
    r.nextCall?.toList ++ callsToEnd r'
  | .halted _ _ => []
  | .complete => []
termination_by r.remaining

/-- The calls to the end are the next one, if there is one, and those after it. -/
theorem callsToEnd_eq (r : Run σ) : r.callsToEnd = match r.advance with
    | .running r' => r.nextCall?.toList ++ r'.callsToEnd
    | .halted _ _ => []
    | .complete => [] := by
  rw [callsToEnd]
  split
  all_goals
    rename_i h
    simp only [h]

theorem callsToEnd_of_running {r r' : Run σ} (h : r.advance = .running r') :
    r.callsToEnd = r.nextCall?.toList ++ r'.callsToEnd := by
  rw [callsToEnd_eq, h]

theorem callsToEnd_of_halted {r : Run σ} {cause : Halt} {world : World σ}
    (h : r.advance = .halted cause world) : r.callsToEnd = [] := by
  rw [callsToEnd_eq, h]

theorem callsToEnd_of_complete {r : Run σ} (h : r.advance = .complete) : r.callsToEnd = [] := by
  rw [callsToEnd_eq, h]

/-- The way of a sink that answers at once goes by steps. -/
theorem step_advance {r r' : Run σ} (h : r.advance = .running r') :
    ∃ act, act ≠ .cancel ∧ act.call? = r.nextCall? ∧ Step r act r' := by
  cases flies : r.inFlight with
  | cons o rest =>
    rw [advance_of_inFlight flies] at h
    cases h
    refine ⟨.finish o, by simp, ?_, .finish [] o rest flies⟩
    rw [nextCall?, flies]
    rfl
  | nil =>
    by_cases room : r.canTake = true
    · rw [advance_of_room flies room] at h
      obtain ⟨message, next⟩ := step_of_take room h
      refine ⟨_, by simp, ?_, next⟩
      rw [nextCall?, flies, room]
      cases r.waiting <;> rfl
    · have full : r.canTake = false := Bool.eq_false_iff.mpr room
      cases waits : r.waiting with
      | nil =>
        rw [advance_of_isOver (isOver_iff.mpr ⟨full, waits, flies⟩)] at h
        cases h
      | cons first rest =>
        rw [advance_of_waiting flies full waits] at h
        cases h
        -- Whether the first that waits is called or dropped hangs on the cancellation alone.
        have hnext : r.nextCall? = if r.world.cancelled then none else some (r.call first) := by
          rw [nextCall?, flies, waits, full]
          rfl
        cases hcancelled : r.world.cancelled with
        | false =>
          refine ⟨.send (r.call first), by simp, ?_, .send first rest waits hcancelled⟩
          rw [hnext, hcancelled]
          rfl
        | true =>
          refine ⟨.drop first.1, by simp, ?_, .drop first rest waits hcancelled⟩
          rw [hnext, hcancelled]
          rfl

/-- It ends only where nothing is left. -/
theorem isOver_of_advance {r : Run σ} (h : r.advance = .complete) : r.isOver = true := by
  unfold advance at h
  split at h
  · cases h
  · rename_i flies
    split at h
    · exact absurd h (take_ne_complete r)
    · rename_i room
      split at h
      · cases h
      · rename_i waits
        simp [isOver, room, waits, flies]

/-- It stops early only where nothing is in flight and an iteration cannot be taken. -/
theorem take_of_advance {r : Run σ} {cause : Halt} {world : World σ}
    (h : r.advance = .halted cause world) :
    r.inFlight = [] ∧ r.canTake = true ∧ r.take = .halted cause world := by
  unfold advance at h
  split at h
  · cases h
  · rename_i landed
    split at h
    · rename_i room
      exact ⟨landed, room, h⟩
    · split at h <;> cases h

/-- `last` is the batch at which a run to its end stopped. -/
def Ending.At : Ending σ → Run σ → Prop
  | .complete r, last => r = last ∧ last.isOver = true
  | .halted cause world, last => last.canTake = true ∧ last.take = .halted cause world

/-- One batch becomes another by the steps of a sink that answers at once, and may be cancelled from
outside between any two of them. -/
inductive Prompt (r : Run σ) : List Act → Run σ → Prop where
  | refl : Prompt r [] r
  | step {acts : List Act} {act : Act} {r' r'' : Run σ} (path : Prompt r acts r')
    (next : Step r' act r'') (at_once : act = .cancel ∨ r'.advance = .running r'') :
    Prompt r (acts ++ [act]) r''

/-- It is one way among all. -/
theorem Prompt.schedule {r r' : Run σ} {acts : List Act} (path : Prompt r acts r') :
    Schedule r acts r' := by
  induction path with
  | refl => exact .refl
  | step _ next _ ih => exact .step ih next

/-- A prompt schedule goes on where another one ends. -/
theorem Prompt.trans {a b c : Run σ} {acts acts' : List Act} (ab : Prompt a acts b)
    (bc : Prompt b acts' c) : Prompt a (acts ++ acts') c := by
  induction bc with
  | refl => rwa [List.append_nil]
  | step _ next at_once ih =>
    rw [← List.append_assoc]
    exact .step ih next at_once

/-- A batch that is run to its end goes on at once, without a cancellation from outside, until it
cannot go on. -/
theorem prompt_of_toEnd (r : Run σ) :
    ∃ acts last, .cancel ∉ acts ∧ calls acts = r.callsToEnd ∧ Prompt r acts last ∧
      r.toEnd = last.toEnd ∧ ∀ next, last.advance ≠ .running next := by
  cases hr : r.advance with
  | running r' =>
    have := remaining_lt_of_advance hr
    obtain ⟨act, hact, hcall, next⟩ := step_advance hr
    obtain ⟨acts, last, hacts, hcalls, path, hend, hlast⟩ := prompt_of_toEnd r'
    have first : Prompt r [act] r' := .step .refl next (Or.inr hr)
    refine ⟨act :: acts, last, ?_, ?_, first.trans path, ?_, hlast⟩
    · rw [List.mem_cons, not_or]
      exact ⟨Ne.symm hact, hacts⟩
    · rw [calls_cons, hcall, hcalls, callsToEnd_of_running hr]
    · rw [toEnd_of_running hr, hend]
  | halted cause world =>
    refine ⟨[], r, List.not_mem_nil, (callsToEnd_of_halted hr).symm, .refl, rfl, ?_⟩
    simp [hr]
  | complete =>
    refine ⟨[], r, List.not_mem_nil, (callsToEnd_of_complete hr).symm, .refl, rfl, ?_⟩
    simp [hr]
termination_by r.remaining

/-- A batch that is run to its end gets there by steps, none of which is a cancellation from
outside. -/
theorem schedule_of_toEnd (r : Run σ) :
    ∃ acts last, .cancel ∉ acts ∧ calls acts = r.callsToEnd ∧ Schedule r acts last ∧
      r.toEnd.At last := by
  obtain ⟨acts, last, hacts, hcalls, path, hend, hlast⟩ := prompt_of_toEnd r
  refine ⟨acts, last, hacts, hcalls, path.schedule, ?_⟩
  rw [hend]
  cases h : last.advance with
  | running next => exact absurd h (hlast next)
  | halted cause world =>
    rw [toEnd_of_halted h]
    exact (take_of_advance h).2
  | complete =>
    rw [toEnd_of_complete h]
    exact ⟨rfl, isOver_of_advance h⟩

end Run

end Courier.Batch
