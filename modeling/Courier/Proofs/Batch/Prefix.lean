import Courier.Proofs.Batch.Refusal

/-!
# A cancellation cuts a batch to a front part

Wherever a batch stands, the iterations that were started are the first ones, in order and without a
gap: iterations are started in the order they were taken in, and one is dropped only after a
cancellation, when none is started any more. So the result of a batch lists a front part of the
iterations and counts all others as cancelled, and a batch that begins after a cancellation is over
at once.
-/

namespace Courier.Batch

namespace Run

variable {σ : Type} [Sink σ]

/-! ## After a cancellation -/

/-- A cancellation is never taken back, and nothing is started after it. -/
theorem cancelled_of_step {r r' : Run σ} {act : Act} (cancelled : r.world.cancelled = true)
    (next : Step r act r') : r'.world.cancelled = true ∧ act.call? = none := by
  cases next with
  | take room made waits =>
    obtain ⟨instant, message, desk, -, -, rfl⟩ := take_eq_running made
    exact ⟨cancelled, rfl⟩
  | send first rest waits live =>
    rw [cancelled] at live
    cases live
  | drop first rest waits _ =>
    rw [start_of_cancelled cancelled]
    exact ⟨cancelled, rfl⟩
  | finish before o after flies => exact ⟨cancelled, rfl⟩
  | cancel => exact ⟨rfl, rfl⟩

/-- A cancelled batch stays cancelled and sends nothing more. -/
theorem Schedule.cancelled {r r' : Run σ} {acts : List Act}
    (cancelled : r.world.cancelled = true) (path : Schedule r acts r') :
    r'.world.cancelled = true ∧ calls acts = [] := by
  induction path with
  | refl => exact ⟨cancelled, rfl⟩
  | step _ next ih =>
    obtain ⟨hcancelled, hcall⟩ := cancelled_of_step ih.1 next
    rw [calls_concat, ih.2, hcall]
    exact ⟨hcancelled, rfl⟩

/-- What is not cancelled never was. -/
theorem Schedule.live {r r' : Run σ} {acts : List Act} (path : Schedule r acts r')
    (live : r'.world.cancelled = false) : r.world.cancelled = false := by
  cases hcancelled : r.world.cancelled with
  | false => rfl
  | true =>
    rw [(path.cancelled hcancelled).1] at live
    cases live

omit [Sink σ] in
/-- A cancelled batch makes no more messages. -/
theorem canTake_of_cancelled {r : Run σ} (cancelled : r.world.cancelled = true) :
    r.canTake = false := by
  rw [canTake, cancelled]
  rfl

/-- After a cancellation no clock can keep a batch from its end. -/
theorem exists_over_of_cancelled {r : Run σ} (cancelled : r.world.cancelled = true) :
    ∃ acts last, .cancel ∉ acts ∧ Schedule r acts last ∧ last.isOver = true := by
  obtain ⟨acts, last, hacts, -, path, ending⟩ := schedule_of_toEnd r
  have hroom : last.canTake = false := canTake_of_cancelled (path.cancelled cancelled).1
  cases hend : r.toEnd with
  | complete r' =>
    rw [hend] at ending
    exact ⟨acts, last, hacts, path, ending.2⟩
  | halted cause world =>
    rw [hend] at ending
    rw [ending.1] at hroom
    cases hroom

/-! ## The front part -/

/-- The iterations settled are those started and after them those dropped; none is dropped while the
batch is not cancelled. -/
theorem Schedule.settled_eq {r r' : Run σ} {acts : List Act} (path : Schedule r acts r') :
    ∃ dropped, settled acts = (calls acts).map Call.index ++ dropped ∧
      (r'.world.cancelled = false → dropped = []) := by
  induction path with
  | refl => exact ⟨[], rfl, fun _ => rfl⟩
  | @step acts act r' r'' _ next ih =>
    obtain ⟨dropped, hsettled, hlive⟩ := ih
    rw [settled_concat, calls_concat, List.map_append, hsettled]
    cases next with
    | take room made waits =>
      obtain ⟨instant, message, desk, -, -, rfl⟩ := take_eq_running made
      exact ⟨dropped, by simp [Act.settled?, Act.call?], hlive⟩
    | send first rest waits live =>
      -- Nothing was dropped so far, as the batch is still live.
      rw [hlive live]
      exact ⟨[], by simp [Act.settled?, Act.call?, call], fun _ => rfl⟩
    | drop first rest waits cancelled =>
      rw [start_of_cancelled cancelled]
      refine ⟨dropped ++ [first.1], by simp [Act.settled?, Act.call?], ?_⟩
      intro live
      rw [cancelled] at live
      cases live
    | finish before o after flies => exact ⟨dropped, by simp [Act.settled?, Act.call?], hlive⟩
    | cancel =>
      refine ⟨dropped, by simp [Act.settled?, Act.call?], ?_⟩
      intro live
      cases live

section Follows

variable {request : Request} {before r : Run σ} {acts : List Act} (h : Follows request acts r)
  (path : Schedule before acts r)

include h path

/-- The iterations started are the first ones, in order. -/
theorem Follows.index_calls :
    (calls acts).map Call.index = List.range' 1 (calls acts).length := by
  -- What was started, dropped or waits is the row of all that was taken; the calls are its front.
  obtain ⟨dropped, hsettled, -⟩ := path.settled_eq
  have hrange := h.indices.symm
  rw [hsettled, List.append_assoc, List.range'_eq_append_iff] at hrange
  obtain ⟨k, -, hk, -⟩ := hrange
  have hlength := congrArg List.length hk
  rw [List.length_map, List.length_range'] at hlength
  rw [hk, hlength]

/-- While a batch is not cancelled, what was taken was started or waits. -/
theorem Follows.taken_eq (live : r.world.cancelled = false) :
    r.taken = (calls acts).length + r.waiting.length := by
  obtain ⟨dropped, hsettled, hlive⟩ := path.settled_eq
  have hlength := congrArg List.length h.indices
  rw [hsettled, hlive live, List.append_nil, List.length_append, List.length_map, List.length_map,
    List.length_range'] at hlength
  exact hlength.symm

/-- A batch that is over without a cancellation has started all its iterations. -/
theorem Follows.length_calls_of_live (window : 0 < r.window) (ended : r.isOver = true)
    (live : r.world.cancelled = false) : (calls acts).length = request.count := by
  obtain ⟨hroom, hwaiting, hflies⟩ := isOver_iff.mp ended
  have htaken := h.taken_eq path live
  have hle := h.taken_le
  have hfull : ¬r.taken < request.count := by
    intro hlt
    have hroom' : r.canTake = true := by
      rw [canTake_iff, h.request_eq, hwaiting, hflies]
      exact ⟨live, hlt, window⟩
    rw [hroom] at hroom'
    cases hroom'
  rw [hwaiting, List.length_nil] at htaken
  omega

end Follows

/-- An accepted request that is carried out without a cancellation starts all its iterations. -/
theorem length_calls_of_start {concurrency : Nat} {request : Request} {world : World σ}
    {run r : Run σ} {acts : List Act} (accepted : Batch.start concurrency request world = .ok run)
    (path : Schedule run acts r) (ended : r.isOver = true) (live : r.world.cancelled = false) :
    (calls acts).length = request.count :=
  (follows_of_schedule accepted path).length_calls_of_live path (window_pos_of_start accepted path)
    ended live

end Run

/-! ## The result as an account of the calls -/

/-- The result of a batch that asked for `count` messages and made these calls of the sink. -/
def BatchResult.ofCalls (count : Nat) (cs : List Call) : BatchResult :=
  { requested := count
    succeeded := (cs.map Call.outcome).countP (·.isSuccess)
    failed := (cs.map Call.outcome).countP (!·.isSuccess)
    cancelled := count - cs.length
    outcomes := cs.map Call.outcome }

namespace Run

variable {σ : Type} [Sink σ]

omit [Sink σ] in
/-- The result hangs on the calls of the sink alone and not on the order their outcomes came in. -/
theorem Follows.finalize_eq {request : Request} {r : Run σ} {acts : List Act}
    (h : Follows request acts r) (landed : r.inFlight = []) :
    r.tally.finalize = .ofCalls request.count (calls acts) := by
  have hcalls : ((calls acts).map Call.outcome).Pairwise fun a b => a.index < b.index := by
    rw [List.pairwise_map]
    exact h.index_lt.imp fun hlt => by rwa [Call.index_outcome, Call.index_outcome]
  have houtcomes : r.tally.finalize.outcomes = (calls acts).map Call.outcome := by
    refine List.Perm.eq_of_pairwise ?_ (Tally.strictly_sorted_finalize (h.nodup_tally landed))
      hcalls (h.perm_outcomes landed)
    intro a b _ _ hab hba
    exact absurd (Nat.lt_trans hab hba) (Nat.lt_irrefl a.index)
  have hsucceeded := h.succeeded_tally landed
  have hfailed := h.failed_tally landed
  rw [houtcomes] at hsucceeded hfailed
  have hcancelled : r.tally.finalize.cancelled = request.count - (calls acts).length := by
    rw [Tally.finalize, h.requested_tally, h.recorded_tally landed]
  calc r.tally.finalize
      = ⟨r.tally.requested, r.tally.succeeded, r.tally.failed, r.tally.finalize.cancelled,
          r.tally.finalize.outcomes⟩ := rfl
    _ = .ofCalls request.count (calls acts) := by
        rw [h.requested_tally, hsucceeded, hfailed, hcancelled, houtcomes]
        rfl

/-! ## Batches that begin after a cancellation -/

omit [Sink σ] in
/-- Cancelling twice is cancelling once. -/
theorem cancel_of_cancelled {r : Run σ} (cancelled : r.world.cancelled = true) : r.cancel = r := by
  rw [cancel, ← cancelled]

/-- A cancelled batch that has not begun stays as it is. -/
theorem eq_of_step_idle {r r' : Run σ} {act : Act} (cancelled : r.world.cancelled = true)
    (waiting : r.waiting = []) (landed : r.inFlight = []) (next : Step r act r') : r' = r := by
  cases next with
  | take room made waits =>
    rw [canTake_of_cancelled cancelled] at room
    cases room
  | send first rest waits live =>
    rw [waiting] at waits
    cases waits
  | drop first rest waits _ =>
    rw [waiting] at waits
    cases waits
  | finish before o after flies =>
    rw [landed] at flies
    exact absurd flies.symm (by simp)
  | cancel => exact cancel_of_cancelled cancelled

/-- A cancelled batch with nothing left to do stays as it is. -/
theorem Schedule.eq_of_idle {r r' : Run σ} {acts : List Act} (cancelled : r.world.cancelled = true)
    (waiting : r.waiting = []) (landed : r.inFlight = []) (path : Schedule r acts r') : r' = r := by
  induction path with
  | refl => rfl
  | step _ next ih =>
    subst ih
    exact eq_of_step_idle cancelled waiting landed next

omit [Sink σ] in
/-- A batch that begins after a cancellation is over, and nothing was sent. -/
theorem isOver_of_start {concurrency : Nat} {request : Request} {world : World σ} {run : Run σ}
    (cancelled : world.cancelled = true)
    (accepted : Batch.start concurrency request world = .ok run) :
    run.isOver = true ∧ run.tally.finalize =
      { requested := request.count, succeeded := 0, failed := 0, cancelled := request.count
        outcomes := [] } := by
  obtain ⟨template, -, rfl⟩ := eq_begin_of_start accepted
  exact ⟨isOver_iff.mpr ⟨canTake_of_cancelled cancelled, rfl, rfl⟩,
    (follows_begin request template _ world).finalize_eq rfl⟩

/-- It is dispatched without a step. -/
theorem dispatch_of_cancelled {concurrency : Nat} {request : Request} {world : World σ}
    {run : Run σ} (cancelled : world.cancelled = true)
    (accepted : Batch.start concurrency request world = .ok run) :
    dispatch concurrency request world = (Ending.complete run).report := by
  obtain ⟨hover, -⟩ := isOver_of_start cancelled accepted
  exact dispatch_of_complete accepted (toEnd_of_complete (advance_of_isOver hover))

/-- Nor does any other schedule change it. -/
theorem Schedule.eq_of_start {concurrency : Nat} {request : Request} {world : World σ}
    {run last : Run σ} {acts : List Act} (cancelled : world.cancelled = true)
    (accepted : Batch.start concurrency request world = .ok run) (path : Schedule run acts last) :
    last = run ∧ calls acts = [] := by
  obtain ⟨template, -, rfl⟩ := eq_begin_of_start accepted
  have hidle : (begin request template (max 1 concurrency) world).world.cancelled = true :=
    cancelled
  exact ⟨path.eq_of_idle hidle rfl rfl, (path.cancelled hidle).2⟩

/-! ## Cancelled batches -/

/-- After these steps a batch has started its first `m` iterations and no others. -/
structure Cut (request : Request) (acts : List Act) (r : Run σ) (m : Nat) : Prop where
  le_count : m ≤ request.count
  /-- The sink was called for the first `m` iterations, in order. -/
  indices : (calls acts).map Call.index = List.range' 1 m
  /-- Every send that was started is in flight or recorded. -/
  awaited : ((calls acts).map Call.outcome).Perm (finished acts ++ r.inFlight)
  /-- After a cancellation nothing is started any more, and the cancellation stays. -/
  silent : r.world.cancelled = true → ∀ acts' later, Schedule r acts' later →
    calls acts' = [] ∧ later.world.cancelled = true
  /-- After a cancellation the batch can always be brought to its end. -/
  ends : r.world.cancelled = true →
    ∃ acts' last, .cancel ∉ acts' ∧ Schedule r acts' last ∧ last.isOver = true
  /-- At the end every send that was started is recorded. -/
  recorded : r.isOver = true → (finished acts).Perm ((calls acts).map Call.outcome)
  /-- Then the result lists the sends and counts all other iterations as cancelled. -/
  result : r.isOver = true → ∃ result, (Ending.complete r).report.1.verdict = .done result ∧
    result.outcomes = (calls acts).map Call.outcome ∧
    result.outcomes.map Outcome.index = List.range' 1 m ∧
    result.cancelled = request.count - m ∧ (result.isCancelled = true ↔ m < request.count)
  /-- Without a cancellation no iteration is left out. -/
  whole : r.isOver = true → r.world.cancelled = false → m = request.count

/-- Whatever the schedule and whenever it is cancelled, a batch starts a front part of its
iterations; and once it is cancelled, every later batch is over before anything is sent. -/
theorem cut_of_schedule {concurrency : Nat} {request : Request} {world : World σ} {run r : Run σ}
    {acts : List Act} (accepted : Batch.start concurrency request world = .ok run)
    (path : Schedule run acts r) :
    (∃ m, Cut request acts r m) ∧
      (r.world.cancelled = true → ∀ (concurrency' : Nat) (later : Request) (run' : Run σ),
        Batch.start concurrency' later r.world = .ok run' →
          let untouched : BatchResult :=
            { requested := later.count, succeeded := 0, failed := 0, cancelled := later.count
              outcomes := [] }
          (dispatch concurrency' later r.world).1.verdict = .done untouched ∧
          (dispatch concurrency' later r.world).2 = r.world ∧
          ∀ acts' last, Schedule run' acts' last → calls acts' = [] ∧ last.world = r.world ∧
            last.isOver = true ∧ (Ending.complete last).report.1.verdict = .done untouched) := by
  have h := follows_of_schedule accepted path
  have hindex := h.index_calls path
  refine ⟨⟨(calls acts).length, ?_⟩, ?_⟩
  · constructor
    case le_count => exact h.length_calls_le
    case indices => exact hindex
    case awaited => exact h.outcomes
    case silent =>
      intro cancelled acts' later onward
      obtain ⟨hcancelled, hcalls⟩ := onward.cancelled cancelled
      exact ⟨hcalls, hcancelled⟩
    case ends => exact exists_over_of_cancelled
    case recorded => exact fun ended => (h.perm_finished (inFlight_of_isOver ended)).symm
    case result =>
      intro ended
      refine ⟨_, rfl, ?_⟩
      rw [h.finalize_eq (inFlight_of_isOver ended)]
      refine ⟨rfl, ?_, rfl, ?_⟩
      · exact (map_index_outcome (calls acts)).trans hindex
      · have hcancelled : (BatchResult.ofCalls request.count (calls acts)).cancelled =
            request.count - (calls acts).length := rfl
        rw [BatchResult.isCancelled, decide_eq_true_eq, hcancelled]
        omega
    case whole => exact length_calls_of_start accepted path
  · intro cancelled concurrency' later run' started untouched
    -- The token is shared: a batch that starts later finds itself cancelled.
    obtain ⟨hover, hresult⟩ := isOver_of_start cancelled started
    have hverdict : (Ending.complete run').report.1.verdict = .done untouched :=
      congrArg Verdict.done hresult
    have hworld : run'.world = r.world := by
      obtain ⟨template, -, rfl⟩ := eq_begin_of_start started
      rfl
    rw [dispatch_of_cancelled cancelled started]
    refine ⟨hverdict, hworld, ?_⟩
    intro acts' last onward
    obtain ⟨rfl, hcalls⟩ := onward.eq_of_start cancelled started
    exact ⟨hcalls, hworld, hover, hverdict⟩

/-- Of three messages two are taken. The batch is cancelled while the first is being sent, so that
the second is dropped; a later batch of two messages is over at once. -/
theorem cut_of_interrupted :
    ∃ (run r : Run Rehearsal) (acts : List Act),
      Batch.start 2 ⟨"server", "topic", {}, 3⟩ (.rehearsal []) = .ok run ∧ Schedule run acts r ∧
        r.isOver = true ∧ r.world.cancelled = true ∧ (calls acts).map Call.index = [1] ∧
        (∃ m, Cut ⟨"server", "topic", {}, 3⟩ acts r m) ∧
        (dispatch 1 ⟨"server", "topic", {}, 2⟩ r.world).1.verdict = .done ⟨2, 0, 0, 2, []⟩ := by
  have accepted : Batch.start 2 ⟨"server", "topic", {}, 3⟩ (.rehearsal []) =
      .ok (.begin ⟨"server", "topic", {}, 3⟩ ⟨none, none, []⟩ 2 (.rehearsal [])) := rfl
  have path :
      Schedule (.begin ⟨"server", "topic", {}, 3⟩ ⟨none, none, []⟩ 2 (.rehearsal [])) _ _ :=
    .head (.take rfl rfl rfl) <| .head (.take rfl rfl rfl) <|
    .head (.send _ _ rfl rfl) <| .head .cancel <|
    .head (.drop _ _ rfl rfl) <| .head (.finish [] _ [] rfl) .refl
  obtain ⟨hcut, hlater⟩ := cut_of_schedule accepted path
  have started := hlater rfl 1 ⟨"server", "topic", {}, 2⟩ _ rfl
  exact ⟨_, _, _, accepted, path, rfl, rfl, rfl, hcut, started.1⟩

end Run

end Courier.Batch
