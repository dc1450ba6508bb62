import Courier.Batch.Schedule
import Courier.Proofs.Batch.Tally
import Mathlib.Data.List.Nodup
import Mathlib.Data.List.Perm.Subperm

/-!
# A batch accounts for every call of the sink

Whatever the order of the steps and whenever the batch is cancelled, the result of a batch lists
just the calls of the sink, once each and with their answers, and counts all other iterations as
cancelled. What carries the proofs is `Run.Follows`: an iteration taken is waiting, dropped or
started, and one that was started is in flight or recorded.
-/

namespace Courier.Batch

/-! ## What is seen of single steps -/

/-- What a last act adds to what is read off a list of acts. -/
theorem filterMap_concat {α : Type} (f : Act → Option α) (acts : List Act) (act : Act) :
    (acts ++ [act]).filterMap f = acts.filterMap f ++ (f act).toList := by
  rw [List.filterMap_append]
  cases h : f act <;> simp [h]

theorem calls_concat (acts : List Act) (act : Act) :
    calls (acts ++ [act]) = calls acts ++ act.call?.toList :=
  filterMap_concat Act.call? acts act

theorem finished_concat (acts : List Act) (act : Act) :
    finished (acts ++ [act]) = finished acts ++ act.outcome?.toList :=
  filterMap_concat Act.outcome? acts act

theorem settled_concat (acts : List Act) (act : Act) :
    settled (acts ++ [act]) = settled acts ++ act.settled?.toList :=
  filterMap_concat Act.settled? acts act

theorem made_concat (acts : List Act) (act : Act) :
    made (acts ++ [act]) = made acts ++ act.item?.toList :=
  filterMap_concat Act.item? acts act

theorem dropped_concat (acts : List Act) (act : Act) :
    dropped (acts ++ [act]) = dropped acts ++ act.dropped?.toList :=
  filterMap_concat Act.dropped? acts act

/-- The iterations that were started are among those that wait no longer, in the same order. -/
theorem index_calls_sublist (acts : List Act) :
    ((calls acts).map Call.index).Sublist (settled acts) := by
  induction acts with
  | nil => exact .slnil
  | cons act acts ih =>
    cases act with
    | send c => exact ih.cons_cons c.index
    | drop index => exact ih.cons index
    | take index message => exact ih
    | finish o => exact ih
    | cancel => exact ih

namespace Run

variable {σ : Type} [Sink σ]

/-- A live batch sends the first message that waits and has its outcome in flight. -/
theorem start_of_live {r : Run σ} (live : r.world.cancelled = false)
    (first : Nat × Template.Message) (rest : List (Nat × Template.Message)) :
    r.start first rest = { r with
      waiting := rest
      inFlight := r.inFlight ++ [(r.call first).outcome]
      world := { r.world with
        sink := (Sink.send r.world.sink (r.call first).delivery).sink
        cancelled := (Sink.send r.world.sink (r.call first).delivery).cancels } } := by
  rw [start, if_neg (by simp [live])]
  rfl

/-- A cancelled batch drops the first message that waits. -/
theorem start_of_cancelled {r : Run σ} (cancelled : r.world.cancelled = true)
    (first : Nat × Template.Message) (rest : List (Nat × Template.Message)) :
    r.start first rest = { r with waiting := rest } := by
  rw [start, if_pos cancelled]

/-! ## The invariant -/

/-- Where a batch stands after these steps. -/
structure Follows (request : Request) (acts : List Act) (r : Run σ) : Prop where
  request_eq : r.request = request
  taken_le : r.taken ≤ request.count
  /-- Every iteration taken is waiting or was settled, in the order of the indices. -/
  indices : settled acts ++ r.waiting.map Prod.fst = List.range' 1 r.taken
  /-- Every iteration started is in flight or recorded. -/
  outcomes : ((calls acts).map Call.outcome).Perm (finished acts ++ r.inFlight)
  tally_eq : r.tally = (Tally.start request.count).recordAll (finished acts)

omit [Sink σ] in
/-- Before the first act there is nothing to account for. -/
theorem follows_begin (request : Request) (template : Template.CompiledTemplate) (window : Nat)
    (world : World σ) : Follows request [] (.begin request template window world) where
  request_eq := rfl
  taken_le := Nat.zero_le _
  indices := rfl
  outcomes := .nil
  tally_eq := rfl

/-- Every step keeps the account. -/
theorem Follows.step {request : Request} {acts : List Act} {act : Act} {r r' : Run σ}
    (h : Follows request acts r) (next : Step r act r') : Follows request (acts ++ [act]) r' := by
  obtain ⟨request_eq, taken_le, indices, outcomes, tally_eq⟩ := h
  cases next with
  | @take _ message room made waits =>
    obtain ⟨instant, message', desk, -, -, rfl⟩ := take_eq_running made
    have room' : r.taken < r.request.count := (canTake_iff.mp room).2.1
    rw [request_eq] at room'
    refine ⟨request_eq, room', ?_, ?_, ?_⟩
    · rw [settled_concat, List.map_append, List.range'_1_concat, ← indices]
      simp [Act.settled?, Nat.add_comm]
    · rw [calls_concat, finished_concat]
      simpa [Act.call?, Act.outcome?] using outcomes
    · rw [finished_concat]
      simpa [Act.outcome?] using tally_eq
  | send first rest waits live =>
    rw [start_of_live live]
    refine ⟨request_eq, taken_le, ?_, ?_, ?_⟩
    · rw [settled_concat, ← indices, waits]
      simp [Act.settled?, call]
    · rw [calls_concat, finished_concat, List.map_append]
      have := outcomes.append_right [(r.call first).outcome]
      simpa [Act.call?, Act.outcome?] using this
    · rw [finished_concat]
      simpa [Act.outcome?] using tally_eq
  | drop first rest waits cancelled =>
    rw [start_of_cancelled cancelled]
    refine ⟨request_eq, taken_le, ?_, ?_, ?_⟩
    · rw [settled_concat, ← indices, waits]
      simp [Act.settled?]
    · rw [calls_concat, finished_concat]
      simpa [Act.call?, Act.outcome?] using outcomes
    · rw [finished_concat]
      simpa [Act.outcome?] using tally_eq
  | finish before o after flies =>
    refine ⟨request_eq, taken_le, ?_, ?_, ?_⟩
    · rw [settled_concat]
      simpa [Act.settled?, finish] using indices
    · -- The outcome moves from its place in flight to the end of those recorded.
      have moved : (before ++ o :: after).Perm (o :: (before ++ after)) := List.perm_middle
      rw [flies] at outcomes
      rw [calls_concat, finished_concat]
      simpa [Act.call?, Act.outcome?, finish] using
        outcomes.trans (moved.append_left (finished acts))
    · rw [finished_concat, Act.outcome?, Option.toList_some, Tally.recordAll_concat, ← tally_eq]
      rfl
  | cancel =>
    refine ⟨request_eq, taken_le, ?_, ?_, ?_⟩
    · rw [settled_concat]
      simpa [Act.settled?, cancel] using indices
    · rw [calls_concat, finished_concat]
      simpa [Act.call?, Act.outcome?, cancel] using outcomes
    · rw [finished_concat]
      simpa [Act.outcome?, cancel] using tally_eq

/-- So does any schedule. -/
theorem Follows.schedule {request : Request} {acts acts' : List Act} {r r' : Run σ}
    (h : Follows request acts r) (path : Schedule r acts' r') :
    Follows request (acts ++ acts') r' := by
  induction path with
  | refl => rwa [List.append_nil]
  | step _ next ih =>
    rw [← List.append_assoc]
    exact ih.step next

omit [Sink σ] in
/-- A request that is accepted is begun, with a window of one place at least. -/
theorem start_of_accept {request : Request} {template : Template.CompiledTemplate}
    (accepted : request.accept = .ok template) (concurrency : Nat) (world : World σ) :
    Batch.start concurrency request world =
      .ok (.begin request template (max 1 concurrency) world) := by
  rw [Batch.start, accepted]
  rfl

omit [Sink σ] in
/-- An accepted request becomes a batch with nothing done yet, in the world as it is. -/
theorem eq_begin_of_start {concurrency : Nat} {request : Request} {world : World σ} {run : Run σ}
    (accepted : Batch.start concurrency request world = .ok run) :
    ∃ template, request.accept = .ok template ∧
      run = .begin request template (max 1 concurrency) world := by
  unfold Batch.start at accepted
  cases haccept : request.accept with
  | error e =>
    rw [haccept] at accepted
    cases accepted
  | ok template =>
    rw [haccept] at accepted
    cases accepted
    exact ⟨template, rfl, rfl⟩

omit [Sink σ] in
/-- The batch of an accepted request follows it, from the world as it is. -/
theorem follows_of_start {concurrency : Nat} {request : Request} {world : World σ} {run : Run σ}
    (accepted : Batch.start concurrency request world = .ok run) :
    Follows request [] run ∧ run.world = world := by
  obtain ⟨template, -, rfl⟩ := eq_begin_of_start accepted
  exact ⟨follows_begin request template (max 1 concurrency) world, rfl⟩

/-- So it does at any moment. -/
theorem follows_of_schedule {concurrency : Nat} {request : Request} {world : World σ}
    {run r : Run σ} {acts : List Act} (accepted : Batch.start concurrency request world = .ok run)
    (path : Schedule run acts r) : Follows request acts r :=
  (follows_of_start accepted).1.schedule path

/-- The calls are all that the sink sees. -/
theorem Schedule.served {r r' : Run σ} {acts : List Act} (path : Schedule r acts r') :
    Served r.world.sink (calls acts) r'.world.sink := by
  induction path with
  | refl => exact .nil
  | @step acts act r' r'' _ next ih =>
    rw [calls_concat]
    cases next with
    | take room made waits =>
      obtain ⟨instant, message, desk, -, -, rfl⟩ := take_eq_running made
      simpa [Act.call?] using ih
    | send first rest waits live =>
      rw [start_of_live live]
      exact .concat ih rfl
    | drop first rest waits cancelled =>
      rw [start_of_cancelled cancelled]
      simpa [Act.call?] using ih
    | finish before o after flies => simpa [Act.call?, finish] using ih
    | cancel => simpa [Act.call?, cancel] using ih

/-! ## What the invariant says of calls -/

section Follows

omit [Sink σ]

variable {request : Request} {acts : List Act} {r : Run σ} (h : Follows request acts r)

include h

/-- The sink is called in the order of the indices. -/
theorem Follows.index_lt : (calls acts).Pairwise fun a b => a.index < b.index := by
  have hrange : (List.range' 1 r.taken).Pairwise (· < ·) := List.pairwise_lt_range'
  rw [← h.indices] at hrange
  have hsettled := (List.pairwise_append.mp hrange).1
  exact List.pairwise_map.mp (hsettled.sublist (index_calls_sublist acts))

/-- No message is sent twice. -/
theorem Follows.index_nodup : ((calls acts).map Call.index).Nodup :=
  List.pairwise_map.mpr (h.index_lt.imp fun hlt => Nat.ne_of_lt hlt)

/-- It is called for iterations of the request only. -/
theorem Follows.index_range {c : Call} (hc : c ∈ calls acts) :
    1 ≤ c.index ∧ c.index ≤ request.count := by
  have hmem : c.index ∈ List.range' 1 r.taken := by
    rw [← h.indices]
    exact List.mem_append_left _
      ((index_calls_sublist acts).subset (List.mem_map_of_mem hc))
  have := h.taken_le
  rw [List.mem_range'_1] at hmem
  omega

/-- Only messages of the batch are sent. -/
theorem Follows.index_subset :
    (calls acts).map Call.index ⊆ List.range' 1 request.count := by
  intro i hi
  obtain ⟨c, hc, rfl⟩ := List.mem_map.mp hi
  have := h.index_range hc
  rw [List.mem_range'_1]
  omega

/-- There are no more calls than messages asked for. -/
theorem Follows.length_calls_le : (calls acts).length ≤ request.count := by
  have := (h.index_nodup.subperm h.index_subset).length_le
  rwa [List.length_map, List.length_range'] at this

end Follows

end Run

/-! ## Results -/

namespace Outcome

@[simp] theorem index_ofResult (index : Nat) (result : Except TransportError Unit) :
    (ofResult index result).index = index := by
  cases result <;> rfl

/-- An outcome is a success when the sink took the message. -/
theorem isSuccess_ofResult {index : Nat} {result : Except TransportError Unit} :
    (ofResult index result).isSuccess = true ↔ result = .ok () := by
  cases result with
  | ok u => exact iff_of_true rfl rfl
  | error e => exact iff_of_false Bool.false_ne_true (by simp)

end Outcome

@[simp] theorem Call.index_outcome (c : Call) : c.outcome.index = c.index :=
  Outcome.index_ofResult c.index c.result

theorem map_index_outcome (cs : List Call) :
    (cs.map Call.outcome).map Outcome.index = cs.map Call.index := by
  rw [List.map_map]
  exact List.map_congr_left fun c _ => c.index_outcome

/-- The outcome of a call is a success when the sink took the message. -/
theorem Call.isSuccess_outcome {c : Call} : c.outcome.isSuccess = true ↔ c.result = .ok () :=
  Outcome.isSuccess_ofResult

/-- The status of an outcome is that of its call. -/
theorem Call.status_outcome {c : Call} : c.outcome.status = .succeeded ↔ c.result = .ok () := by
  rw [← Call.isSuccess_outcome, Outcome.isSuccess, decide_eq_true_eq]

/-- The error of an outcome is what the sink answered with. -/
theorem Call.error_outcome {c : Call} {e : TransportError} :
    c.outcome.error = some e ↔ c.result = .error e := by
  rw [outcome]
  cases c.result <;>
    simp [Outcome.ofResult, Outcome.success, Outcome.failure, Outcome.error, SendReport.ofError?]

/-- A world in which the clock stands still and the messages with these numbers fail. -/
def World.rehearsal (failOn : List Nat) : World Rehearsal where
  clock := .fixed ⟨0, 0, by decide, by decide, by decide, by decide⟩
  supply := .seeded 0
  sink := { failOn }

/-- A result is an exact account of these calls of a sink, out of `count` messages. -/
structure Accounts (count : Nat) (cs : List Call) (result : BatchResult) : Prop where
  requested_eq : result.requested = count
  /-- Outcomes come in the order of their indices, and no index repeats. -/
  index_lt : result.outcomes.Pairwise fun a b => a.index < b.index
  index_range : ∀ o ∈ result.outcomes, 1 ≤ o.index ∧ o.index ≤ count
  /-- The iterations with an outcome are those that the sink was called for. -/
  called_iff : ∀ i, (∃ o ∈ result.outcomes, o.index = i) ↔ ∃ c ∈ cs, c.index = i
  /-- It was called once for each. -/
  called_once : (cs.map Call.index).Nodup
  /-- An outcome is what the call for its iteration returned. -/
  outcome_eq : ∀ o ∈ result.outcomes, ∀ c ∈ cs, c.index = o.index →
    o = Outcome.ofResult c.index c.result
  /-- So are its status and its error. -/
  told_eq : ∀ o ∈ result.outcomes, ∀ c ∈ cs, c.index = o.index →
    (o.status = .succeeded ↔ c.result = .ok ()) ∧ ∀ e, o.error = some e ↔ c.result = .error e
  succeeded_eq : result.succeeded = result.outcomes.countP (·.isSuccess)
  failed_eq : result.failed = result.outcomes.countP (!·.isSuccess)
  total_eq : result.succeeded + result.failed + result.cancelled = result.requested
  /-- Success is complete when every iteration was sent and succeeded. -/
  complete_iff : result.isCompleteSuccess = true ↔
    ∀ i, 1 ≤ i → i ≤ count → ∃ c ∈ cs, c.index = i ∧ c.result = .ok ()

namespace Run

variable {σ : Type}

/-- Nothing is in flight when a batch is over. -/
theorem inFlight_of_isOver {r : Run σ} (h : r.isOver = true) : r.inFlight = [] :=
  (isOver_iff.mp h).2.2

section Follows

variable {request : Request} {acts : List Act} {r : Run σ} (h : Follows request acts r)

include h

/-- Every iteration was started just when there are as many calls as messages asked for. -/
theorem Follows.length_calls_eq_iff :
    (calls acts).length = request.count ↔
      ∀ i, 1 ≤ i → i ≤ request.count → ∃ c ∈ calls acts, c.index = i := by
  have hlength : ((calls acts).map Call.index).length = (calls acts).length := List.length_map _
  constructor
  · intro heq i hlo hhi
    have hsame : (List.range' 1 request.count).length = ((calls acts).map Call.index).length := by
      rw [hlength, heq, List.length_range']
    have hperm : ((calls acts).map Call.index).Perm (List.range' 1 request.count) :=
      (h.index_nodup.subperm h.index_subset).perm_of_length_le (Nat.le_of_eq hsame)
    have hi : i ∈ List.range' 1 request.count := List.mem_range'_1.mpr (by omega)
    exact List.mem_map.mp (hperm.mem_iff.mpr hi)
  · intro hall
    have hsubset : List.range' 1 request.count ⊆ (calls acts).map Call.index := by
      intro i hi
      rw [List.mem_range'_1] at hi
      exact List.mem_map.mpr (hall i hi.1 (by omega))
    have hge := ((List.nodup_range' 1).subperm hsubset).length_le
    rw [hlength, List.length_range'] at hge
    exact Nat.le_antisymm h.length_calls_le hge

/-- The tally is asked for as many outcomes as the batch has messages. -/
theorem Follows.requested_tally : r.tally.requested = request.count := by
  rw [h.tally_eq, Tally.requested_recordAll]
  rfl

variable (landed : r.inFlight = [])

include landed

/-- The calls are recorded once each, though not in the order they were made in. -/
theorem Follows.perm_finished : ((calls acts).map Call.outcome).Perm (finished acts) := by
  have := h.outcomes
  rwa [landed, List.append_nil] at this

/-- With nothing in flight the result lists the calls. -/
theorem Follows.perm_outcomes :
    r.tally.finalize.outcomes.Perm ((calls acts).map Call.outcome) := by
  refine (Tally.perm_outcomes_finalize r.tally).trans ?_
  rw [h.tally_eq, Tally.outcomes_recordAll, Tally.start, List.append_nil]
  exact (List.reverse_perm _).trans (h.perm_finished landed).symm

/-- With nothing in flight, as many outcomes are recorded as calls were made. -/
theorem Follows.recorded_tally : r.tally.recorded = (calls acts).length := by
  have hlength := (h.perm_finished landed).length_eq
  rw [List.length_map] at hlength
  rw [h.tally_eq, Tally.recorded_recordAll, ← hlength]
  exact Nat.zero_add _

/-- The outcomes of the result are those of the calls. -/
theorem Follows.mem_outcomes {o : Outcome} :
    o ∈ r.tally.finalize.outcomes ↔ ∃ c ∈ calls acts, c.outcome = o := by
  rw [(h.perm_outcomes landed).mem_iff, List.mem_map]

/-- No index is recorded twice. -/
theorem Follows.nodup_tally : (r.tally.outcomes.map Outcome.index).Nodup := by
  have hperm := (Tally.perm_outcomes_finalize r.tally).symm.trans (h.perm_outcomes landed)
  rw [(hperm.map Outcome.index).nodup_iff, map_index_outcome]
  exact h.index_nodup

/-- The successes are counted right. -/
theorem Follows.succeeded_tally :
    r.tally.succeeded = r.tally.finalize.outcomes.countP (·.isSuccess) := by
  rw [((h.perm_outcomes landed).trans (h.perm_finished landed)).countP_eq, h.tally_eq,
    Tally.succeeded_recordAll]
  exact Nat.zero_add _

/-- The failures are counted right. -/
theorem Follows.failed_tally :
    r.tally.failed = r.tally.finalize.outcomes.countP (!·.isSuccess) := by
  rw [((h.perm_outcomes landed).trans (h.perm_finished landed)).countP_eq, h.tally_eq,
    Tally.failed_recordAll]
  exact Nat.zero_add _

/-- Nothing has failed when every call went well. -/
theorem Follows.failed_eq_zero_iff :
    r.tally.failed = 0 ↔ ∀ c ∈ calls acts, c.result = .ok () := by
  rw [h.failed_tally landed, List.countP_eq_zero]
  constructor
  · intro hall c hc
    have := hall c.outcome ((h.mem_outcomes landed).mpr ⟨c, hc, rfl⟩)
    exact Call.isSuccess_outcome.mp (by simpa using this)
  · intro hall o ho
    obtain ⟨c, hc, rfl⟩ := (h.mem_outcomes landed).mp ho
    simp [Call.isSuccess_outcome.mpr (hall c hc)]

/-- Success is complete when every iteration was sent and succeeded. -/
theorem Follows.isCompleteSuccess_iff :
    r.tally.finalize.isCompleteSuccess = true ↔
      ∀ i, 1 ≤ i → i ≤ request.count → ∃ c ∈ calls acts, c.index = i ∧ c.result = .ok () := by
  have hcancelled : r.tally.finalize.cancelled = 0 ↔ (calls acts).length = request.count := by
    have hle := h.length_calls_le
    have : r.tally.finalize.cancelled = request.count - (calls acts).length := by
      rw [Tally.finalize, h.requested_tally, h.recorded_tally landed]
    omega
  rw [BatchResult.isCompleteSuccess, Bool.and_eq_true, beq_iff_eq, beq_iff_eq, hcancelled,
    h.length_calls_eq_iff]
  have hfailed : r.tally.finalize.failed = 0 ↔ ∀ c ∈ calls acts, c.result = .ok () :=
    h.failed_eq_zero_iff landed
  rw [hfailed]
  constructor
  · rintro ⟨hok, hall⟩ i hlo hhi
    obtain ⟨c, hc, hi⟩ := hall i hlo hhi
    exact ⟨c, hc, hi, hok c hc⟩
  · intro hall
    constructor
    · intro c hc
      obtain ⟨hlo, hhi⟩ := h.index_range hc
      obtain ⟨c', hc', hindex, hok⟩ := hall c.index hlo hhi
      -- No other call has this index.
      rwa [List.inj_on_of_nodup_map h.index_nodup hc' hc hindex] at hok
    · intro i hlo hhi
      obtain ⟨c, hc, hi, -⟩ := hall i hlo hhi
      exact ⟨c, hc, hi⟩

end Follows

variable [Sink σ]

/-- When a batch is over, its result accounts for the calls of the sink, whatever the schedule; and
no more outcomes were recorded than messages were asked for. -/
theorem accounts_of_schedule {concurrency : Nat} {request : Request} {world : World σ}
    {run last : Run σ} {acts : List Act}
    (accepted : Batch.start concurrency request world = .ok run)
    (path : Schedule run acts last) (ended : last.isOver = true) :
    Served world.sink (calls acts) last.world.sink ∧
      last.tally.recorded ≤ last.tally.requested ∧
      ∃ result, (Ending.complete last).report.1.verdict = .done result ∧
        Accounts request.count (calls acts) result := by
  obtain ⟨-, rfl⟩ := follows_of_start accepted
  have h := follows_of_schedule accepted path
  have landed := inFlight_of_isOver ended
  have hle : last.tally.recorded ≤ last.tally.requested := by
    rw [h.recorded_tally landed, h.requested_tally]
    exact h.length_calls_le
  -- No message is sent twice, so that the index of an outcome tells its call.
  have hcall : ∀ o ∈ last.tally.finalize.outcomes, ∀ c ∈ calls acts, c.index = o.index →
      o = c.outcome := by
    intro o ho c hc hindex
    obtain ⟨c', hc', rfl⟩ := (h.mem_outcomes landed).mp ho
    rw [Call.index_outcome] at hindex
    rw [List.inj_on_of_nodup_map h.index_nodup hc hc' hindex]
  refine ⟨path.served, hle, last.tally.finalize, rfl, ?_⟩
  constructor
  case requested_eq => exact h.requested_tally
  case index_lt => exact Tally.strictly_sorted_finalize (h.nodup_tally landed)
  case index_range =>
    intro o ho
    obtain ⟨c, hc, rfl⟩ := (h.mem_outcomes landed).mp ho
    rw [Call.index_outcome]
    exact h.index_range hc
  case called_iff =>
    intro i
    constructor
    · rintro ⟨o, ho, rfl⟩
      obtain ⟨c, hc, rfl⟩ := (h.mem_outcomes landed).mp ho
      exact ⟨c, hc, (Call.index_outcome c).symm⟩
    · rintro ⟨c, hc, rfl⟩
      exact ⟨c.outcome, (h.mem_outcomes landed).mpr ⟨c, hc, rfl⟩, Call.index_outcome c⟩
  case called_once => exact h.index_nodup
  case outcome_eq =>
    intro o ho c hc hindex
    rw [hcall o ho c hc hindex]
    rfl
  case told_eq =>
    intro o ho c hc hindex
    rw [hcall o ho c hc hindex]
    exact ⟨Call.status_outcome, fun e => Call.error_outcome⟩
  case succeeded_eq => exact h.succeeded_tally landed
  case failed_eq => exact h.failed_tally landed
  case total_eq => exact Nat.add_sub_cancel' hle
  case complete_iff => exact h.isCompleteSuccess_iff landed

/-- Of three messages two are sent at a time. The second is answered before the first, which fails,
and the batch is cancelled in between. -/
theorem accounts_of_interrupted :
    ∃ (run last : Run Rehearsal) (acts : List Act),
      Batch.start 2 ⟨"server", "topic", {}, 3⟩ (.rehearsal [1]) = .ok run ∧ Schedule run acts last ∧
        last.isOver = true ∧ (finished acts).map Outcome.index = [2, 1] ∧
        Served (World.rehearsal [1]).sink (calls acts) last.world.sink ∧
        last.tally.recorded ≤ last.tally.requested ∧
        ∃ result, (Ending.complete last).report.1.verdict = .done result ∧
          Accounts 3 (calls acts) result := by
  have accepted : Batch.start 2 ⟨"server", "topic", {}, 3⟩ (.rehearsal [1]) =
      .ok (.begin ⟨"server", "topic", {}, 3⟩ ⟨none, none, []⟩ 2 (.rehearsal [1])) := rfl
  have path :
      Schedule (.begin ⟨"server", "topic", {}, 3⟩ ⟨none, none, []⟩ 2 (.rehearsal [1])) _ _ :=
    .head (.take rfl rfl rfl) <| .head (.take rfl rfl rfl) <|
    .head (.send _ _ rfl rfl) <| .head (.send _ _ rfl rfl) <|
    .head (.finish [_] _ [] rfl) <| .head .cancel <|
    .head (.finish [] _ [] rfl) .refl
  exact ⟨_, _, _, accepted, path, rfl, rfl, accounts_of_schedule accepted path rfl⟩

end Run

end Courier.Batch
