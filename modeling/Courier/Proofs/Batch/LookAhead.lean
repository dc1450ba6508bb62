import Courier.Proofs.Batch.Broadcast
import Courier.Proofs.Batch.Content

/-!
# A batch looks no further ahead than its concurrency

A message is made some time before it is sent, and the clock is read when it is made. An iteration
that was taken has a place in the window until its outcome is recorded or it is dropped; so at no
moment are more iterations taken than are completed and have a place besides. This bounds what can
be sent by the time the clock fails: none of the iterations from the one whose reading fails on, and
at least those that had to give up their places for it to be taken. When sends are answered at once,
it is just those.
-/

namespace Courier.Batch

variable {σ : Type}

/-- How many iterations are completed: their outcomes are recorded, or they were dropped. -/
def completed (acts : List Act) : Nat :=
  (finished acts).length + (dropped acts).length

/-- How far a batch has come after these steps when `k` of its sends may be in flight. -/
structure Run.Span (k : Nat) (request : Request) (world : World σ) (acts : List Act) (r : Run σ) :
    Prop where
  completed_le : completed acts ≤ (settled acts).length
  settled_le : (settled acts).length ≤ (made acts).length
  made_le : (made acts).length ≤ min request.count (completed acts + k)
  inFlight_le : r.inFlight.length ≤ k
  /-- Iterations are taken in the order of their indices, and started or dropped in this order. -/
  made_eq : (made acts).map Prod.fst = List.range' 1 (made acts).length
  settled_eq : settled acts = List.range' 1 (settled acts).length
  /-- The clock was read once for each iteration taken, and for nothing else. -/
  clock_eq : r.world.clock = world.clock.skip (made acts).length
  /-- Its message was made for this reading. -/
  message : ∀ item ∈ made acts, ∃ template instant desk, request.accept = .ok template ∧
    world.clock.reading (world.clock.reads + (item.1 - 1)) = some instant ∧
    template.materializeIn (.make item.1 instant false)
      (world.supply.skip ((item.1 - 1) * template.draws)) = (.ok item.2, desk)

/-- The reading for iteration `i` out of `count` is the first that fails. It is the last one taken,
and `left` is the world after it. -/
structure World.FailsAt (world left : World σ) (count i : Nat) : Prop where
  pos : 1 ≤ i
  le_count : i ≤ count
  inRange : world.clock.InRange (i - 1)
  failing : world.clock.reading (world.clock.reads + (i - 1)) = none
  clock_eq : left.clock = world.clock.skip i

namespace Run

variable [Sink σ]

/-! ## Where an iteration is on its way -/

section Begin

variable {request : Request} {template : Template.CompiledTemplate} {window : Nat} {world : World σ}
  {r : Run σ} {acts : List Act}

/-- An iteration that was taken was started, was dropped or waits. -/
theorem length_made (path : Schedule (.begin request template window world) acts r) :
    (made acts).length = (calls acts).length + (dropped acts).length + r.waiting.length := by
  obtain ⟨skipped, hmade, hdropped, -⟩ := path.made_eq
  have hlength := congrArg List.length hmade
  have hskipped := congrArg List.length hdropped
  simp only [List.length_append, List.length_map] at hlength hskipped
  rw [← hskipped, ← hlength]
  exact (Nat.zero_add _).symm

omit [Sink σ] in
/-- One that was started is recorded or in flight. -/
theorem Follows.length_calls (h : Follows request acts r) :
    (calls acts).length = (finished acts).length + r.inFlight.length := by
  have hlength := h.outcomes.length_eq
  rwa [List.length_map, List.length_append] at hlength

omit [Sink σ] in
/-- Each message that was made is settled or waits. -/
theorem Follows.length_settled (h : Follows request acts r) :
    (settled acts).length + r.waiting.length = r.taken := by
  have hlength := congrArg List.length h.indices
  rwa [List.length_append, List.length_map, List.length_range'] at hlength

omit [Sink σ] in
/-- Iterations are started or dropped in the order of their indices. -/
theorem Follows.settled_eq (h : Follows request acts r) :
    settled acts = List.range' 1 (settled acts).length := by
  have hrange := h.indices.symm
  rw [List.range'_eq_append_iff] at hrange
  obtain ⟨n, -, hsettled, -⟩ := hrange
  have hlength := congrArg List.length hsettled
  rw [List.length_range'] at hlength
  rw [hlength]
  exact hsettled

/-- The readings for the iterations that were taken did not fail. -/
theorem inRange_of_taken (path : Schedule (.begin request template window world) acts r) :
    world.clock.InRange r.taken := by
  intro n hn
  rw [taken_eq_length path] at hn
  obtain ⟨-, instant, -, hreading, -⟩ :=
    path.makes.1.exists_made (List.getElem?_eq_getElem hn)
  exact ⟨instant, hreading⟩

end Begin

/-! ## The bound -/

variable {concurrency : Nat} {request : Request} {world : World σ} {run r : Run σ}
  {acts : List Act}

/-- What is taken and not yet completed stays within the concurrency. -/
theorem held_le_of_start (accepted : Batch.start concurrency request world = .ok run)
    (path : Schedule run acts r) :
    r.window = max 1 concurrency ∧ r.waiting.length + r.inFlight.length ≤ max 1 concurrency := by
  obtain ⟨template, -, rfl⟩ := eq_begin_of_start accepted
  have hwindow : r.window = max 1 concurrency := (keeps_of_schedule path).window_eq
  exact ⟨hwindow, hwindow ▸ path.held_le (Nat.zero_le _)⟩

/-- Wherever a batch stands, it looks ahead no further than its concurrency. -/
theorem span_of_schedule (accepted : Batch.start concurrency request world = .ok run)
    (path : Schedule run acts r) : r.Span (max 1 concurrency) request world acts := by
  have follows := follows_of_schedule accepted path
  obtain ⟨-, hheld⟩ := held_le_of_start accepted path
  obtain ⟨template, haccept, rfl⟩ := eq_begin_of_start accepted
  have hcount := follows.taken_le
  have htaken := taken_eq_length path
  have hmade := length_made path
  have hcalls := follows.length_calls
  have hsettled := follows.length_settled
  have hcompleted : completed acts = (finished acts).length + (dropped acts).length := rfl
  constructor
  case completed_le => omega
  case settled_le => omega
  case made_le => omega
  case inFlight_le => omega
  case made_eq => exact index_made path
  case settled_eq => exact follows.settled_eq
  case clock_eq => exact path.makes.1.skip.1
  case message =>
    intro item hitem
    obtain ⟨instant, desk, hreading, hmessage⟩ := exists_instant_of_mem_made path hitem
    exact ⟨template, instant, desk, haccept, hreading, hmessage⟩

/-! ## When the clock fails -/

/-- The iteration whose reading fails comes after all that were taken. -/
theorem failsAt_of_take (accepted : Batch.start concurrency request world = .ok run)
    (path : Schedule run acts r) (room : r.canTake = true) {left : World σ}
    (halted : r.take = .halted .clockOutOfRange left) :
    world.FailsAt left request.count (r.taken + 1) := by
  obtain ⟨template, -, rfl⟩ := eq_begin_of_start accepted
  obtain ⟨request_eq, -, -, reading_eq, reads_eq⟩ := keeps_of_schedule path
  have hreads : r.world.clock.reads = world.clock.reads + r.taken := reads_eq
  obtain ⟨hclock, ⟨-, hnone⟩ | ⟨_, _, _, hcause, -⟩⟩ := take_eq_halted halted
  · constructor
    case pos => exact Nat.le_add_left 1 r.taken
    case le_count =>
      have hlt := (canTake_iff.mp room).2.1
      rwa [request_eq] at hlt
    case inRange => exact inRange_of_taken path
    case failing =>
      rw [reading_eq, hreads] at hnone
      exact hnone
    case clock_eq =>
      have hskip : r.world.clock = world.clock.skip r.taken := by
        rw [taken_eq_length path]
        exact path.makes.1.skip.1
      rw [hclock, hskip]
      rfl
  · cases hcause

/-- By the time an iteration is to be taken, the iterations that have no place left beside it were
started and are recorded. -/
theorem started_of_room (accepted : Batch.start concurrency request world = .ok run)
    (path : Schedule run acts r) (room : r.canTake = true) :
    (calls acts).map Call.index = List.range' 1 (calls acts).length ∧
      (calls acts).length ≤ r.taken ∧ r.taken + 1 - max 1 concurrency ≤ (calls acts).length ∧
      r.taken + 1 - max 1 concurrency ≤ (finished acts).length := by
  have follows := follows_of_schedule accepted path
  obtain ⟨live, -, hlt⟩ := canTake_iff.mp room
  rw [(held_le_of_start accepted path).1] at hlt
  have htaken := follows.taken_eq path live
  have hcalls := follows.length_calls
  exact ⟨follows.index_calls path, by omega, by omega, by omega⟩

/-! ## Sends that are answered at once -/

/-- Where a batch stands whose sends are answered at once: no more than one is in flight, and the
window was full before any was started. -/
structure Filled (acts : List Act) (r : Run σ) : Prop where
  order : finished acts ++ r.inFlight = (calls acts).map Call.outcome
  single : r.inFlight.length ≤ 1
  /-- A place is free in the window beside what is in flight only before the first send, or when
  nothing is taken any more. -/
  full : calls acts = [] ∨ r.world.cancelled = true ∨ r.request.count ≤ r.taken ∨
    r.window ≤ r.waiting.length + 1

/-- A send is started at once only when nothing is in flight and the window is full. -/
theorem full_of_advance {first : Nat × Template.Message} {rest : List (Nat × Template.Message)}
    (live : r.world.cancelled = false) (h : r.advance = .running (r.start first rest)) :
    r.inFlight = [] ∧ r.canTake = false := by
  rw [start_of_live live] at h
  cases flies : r.inFlight with
  | cons o after =>
    -- An outcome would be recorded, and one less in flight instead of one more.
    rw [advance_of_inFlight flies] at h
    injection h with h
    have hlength := congrArg (fun s : Run σ => s.inFlight.length) h
    simp only [finish, flies, List.length_append, List.length_cons] at hlength
    omega
  | nil =>
    refine ⟨rfl, ?_⟩
    cases room : r.canTake with
    | false => rfl
    | true =>
      -- One more would be taken.
      rw [advance_of_room flies room] at h
      obtain ⟨_, _, _, -, -, hnext⟩ := take_eq_running h
      have htaken := congrArg Run.taken hnext
      exact absurd htaken (Nat.ne_of_lt (Nat.lt_succ_self r.taken))

/-- A step of a sink that answers at once starts no send from a window with room. -/
theorem Filled.step {act : Act} {r' : Run σ} (h : Filled acts r) (next : Step r act r')
    (at_once : act = .cancel ∨ r.advance = .running r') : Filled (acts ++ [act]) r' := by
  obtain ⟨order, single, full⟩ := h
  cases next with
  | take room made waits =>
    obtain ⟨instant, message, desk, -, -, rfl⟩ := take_eq_running made
    obtain ⟨live, hcount, -⟩ := canTake_iff.mp room
    refine ⟨?_, single, ?_⟩
    · simpa [finished_concat, calls_concat, Act.outcome?, Act.call?] using order
    · rcases full with hnone | hcancelled | hdone | hfull
      · exact Or.inl (by simpa [calls_concat, Act.call?] using hnone)
      · rw [live] at hcancelled
        cases hcancelled
      · omega
      · refine Or.inr (Or.inr (Or.inr ?_))
        simp only [List.length_append, List.length_singleton]
        omega
  | send first rest waits live =>
    obtain ⟨landed, hroom⟩ := full_of_advance live (at_once.resolve_left (by simp))
    rw [landed, List.append_nil] at order
    rw [start_of_live live]
    refine ⟨?_, ?_, ?_⟩
    · rw [finished_concat, calls_concat, List.map_append, order, landed]
      simp [Act.outcome?, Act.call?]
    · -- Nothing was in flight before.
      rw [landed]
      exact Nat.le_refl 1
    · have hfull : ¬(r.taken < r.request.count ∧ r.waiting.length + r.inFlight.length < r.window) :=
        fun h => Bool.false_ne_true (hroom.symm.trans (canTake_iff.mpr ⟨live, h⟩))
      rw [landed, waits, List.length_cons, List.length_nil] at hfull
      refine Or.inr (Or.inr ?_)
      dsimp only
      omega
  | drop first rest waits cancelled =>
    rw [start_of_cancelled cancelled]
    refine ⟨?_, single, Or.inr (Or.inl cancelled)⟩
    simpa [finished_concat, calls_concat, Act.outcome?, Act.call?] using order
  | finish before o after flies =>
    rw [flies, List.length_append, List.length_cons] at single
    -- The one in flight is the one that ends.
    have hbefore : before = [] := List.length_eq_zero_iff.mp (by omega)
    have hafter : after = [] := List.length_eq_zero_iff.mp (by omega)
    rw [flies, hbefore, hafter] at order
    refine ⟨?_, ?_, ?_⟩
    · simpa [finished_concat, calls_concat, Act.outcome?, Act.call?, finish, hbefore, hafter]
        using order
    · rw [hbefore, hafter]
      exact Nat.zero_le 1
    · simpa [calls_concat, Act.call?, finish] using full
  | cancel =>
    refine ⟨?_, single, Or.inr (Or.inl rfl)⟩
    simpa [finished_concat, calls_concat, Act.outcome?, Act.call?, cancel] using order

/-- Sends that are answered at once are started from a full window, one at a time. -/
theorem filled_of_prompt (accepted : Batch.start concurrency request world = .ok run)
    (path : Prompt run acts r) : Filled acts r := by
  obtain ⟨template, -, rfl⟩ := eq_begin_of_start accepted
  induction path with
  | refl => exact ⟨rfl, Nat.zero_le 1, Or.inl rfl⟩
  | step _ next at_once ih => exact ih.step next at_once

/-- When sends are answered at once and the batch comes to be given up, just the iterations without
a place in the window were sent, and all are recorded. -/
theorem started_of_prompt (accepted : Batch.start concurrency request world = .ok run)
    (path : Prompt run acts r) {cause : Halt} {left : World σ}
    (halted : r.advance = .halted cause left) :
    (calls acts).map Call.index = List.range' 1 (r.taken + 1 - max 1 concurrency) ∧
      finished acts = (calls acts).map Call.outcome := by
  have schedule := path.schedule
  have follows := follows_of_schedule accepted schedule
  obtain ⟨order, -, full⟩ := filled_of_prompt accepted path
  obtain ⟨landed, room, -⟩ := take_of_advance halted
  obtain ⟨live, hcount, hlt⟩ := canTake_iff.mp room
  have hwindow := (held_le_of_start accepted schedule).1
  have htaken := follows.taken_eq schedule live
  rw [landed, List.append_nil] at order
  rw [landed, List.length_nil] at hlt
  refine ⟨?_, order⟩
  have hlength : (calls acts).length = r.taken + 1 - max 1 concurrency := by
    -- A message is to be made, so that the batch is neither cancelled nor done with making them.
    rcases full with hnone | hcancelled | hdone | hfull
    · rw [hnone, List.length_nil] at htaken ⊢
      omega
    · rw [live] at hcancelled
      cases hcancelled
    · omega
    · omega
  rw [← hlength]
  exact follows.index_calls schedule

end Run

/-! ## One at a time -/

namespace Broadcast

variable [Sink σ]

/-- The clock is read only when an iteration is to be taken and no event is in hand. -/
theorem clock_of_step {b c : Broadcast σ} {acts : List Act} (next : Step b acts c)
    (reads : c.stage.world.clock.reads ≠ b.stage.world.clock.reads) :
    ∃ r, b.stage = .going r none ∧ r.canTake = true ∧
      c.stage.world.clock = r.world.clock.skip 1 := by
  cases next with
  | @act r r' hand line act next free =>
    cases next with
    | take room made waits =>
      obtain ⟨instant, message, desk, -, -, rfl⟩ := Run.take_eq_running made
      have hhand : hand = none := free.resolve_right (by simp)
      exact ⟨r, congrArg (Stage.going r) hhand, room, rfl⟩
    | send first rest waits live =>
      rw [Run.start_of_live live] at reads
      exact absurd rfl reads
    | drop first rest waits cancelled =>
      rw [Run.start_of_cancelled cancelled] at reads
      exact absurd rfl reads
    | finish before o after flies => exact absurd rfl reads
    | cancel => exact absurd rfl reads
  | @halt r line cause left room halted =>
    obtain ⟨hclock, -⟩ := Run.take_eq_halted halted
    exact ⟨r, rfl, room, hclock⟩
  | conclude complete => exact absurd rfl reads
  | @put r e line line' room =>
    have hworld : (Stage.after r e).world = r.world := by
      cases e <;> rfl
    exact absurd (congrArg (fun w : World σ => w.clock.reads) hworld) reads
  | receive => exact absurd rfl reads
  | leave => exact absurd rfl reads

/-- With a concurrency of one, the clock is read when all that was taken is recorded and no event of
it is in hand. -/
theorem recorded_of_clock {concurrency : Nat} (narrow : concurrency ≤ 1) {request : Request}
    {world : World σ} {run : Run σ} (accepted : start concurrency request world = .ok run)
    {line : Line} (fresh : line.Carries []) {acts acts' : List Act} {b c : Broadcast σ}
    (path : Path (spawn concurrency request world line) acts b) (next : Step b acts' c)
    (reads : c.stage.world.clock.reads ≠ b.stage.world.clock.reads) :
    ∃ r, b.stage = .going r none ∧ c.stage.world.clock = world.clock.skip (r.taken + 1) ∧
      (finished acts).map Outcome.index = List.range' 1 r.taken ∧
      b.line.Carries (progress request acts) := by
  obtain ⟨r, hstage, room, hclock⟩ := clock_of_step next reads
  rcases at_or_halted_of_path accepted fresh path with ⟨es, stands, carries⟩ | halted
  · rw [hstage] at stands
    cases stands with
    | free schedule =>
      have follows := Run.follows_of_schedule accepted schedule
      have hspan := Run.span_of_schedule accepted schedule
      have hevents := schedule.events_eq_progress accepted
      have hwindow := (Run.held_le_of_start accepted schedule).1
      obtain ⟨live, -, hlt⟩ := Run.canTake_iff.mp room
      -- The window has a single place, which is free.
      have hwaiting : r.waiting = [] := List.length_eq_zero_iff.mp (by omega)
      have hlanded : r.inFlight = [] := List.length_eq_zero_iff.mp (by omega)
      have htaken := follows.taken_eq schedule live
      obtain ⟨template, -, rfl⟩ := Run.eq_begin_of_start accepted
      have horder := schedule.finished_of_narrow (Nat.max_eq_left narrow) rfl rfl
      rw [hwaiting, List.length_nil, Nat.add_zero] at htaken
      rw [hlanded, List.append_nil] at horder
      refine ⟨r, hstage, ?_, ?_, hevents ▸ carries⟩
      · rw [hclock, hspan.clock_eq, Run.taken_eq_length schedule, Time.Clock.skip_skip]
      · rw [horder, map_index_outcome, follows.index_calls schedule, htaken]
  · obtain ⟨_, _, _, _, _, _, hended⟩ := halted
    rw [hstage] at hended
    cases hended

/-- What a batch under way has done is a schedule. -/
theorem schedule_of_path {concurrency : Nat} {request : Request} {world : World σ} {run : Run σ}
    (accepted : start concurrency request world = .ok run) {line : Line} (fresh : line.Carries [])
    {acts : List Act} {b : Broadcast σ} (path : Path (spawn concurrency request world line) acts b)
    {r : Run σ} {hand : Option Event} (going : b.stage = .going r hand) :
    Run.Schedule run acts r := by
  rcases at_or_halted_of_path accepted fresh path with ⟨es, stands, -⟩ | halted
  · rw [going] at stands
    cases stands with
    | free schedule => exact schedule
    | holding schedule _ _ => exact schedule
    | closing schedule _ => exact schedule
  · obtain ⟨_, _, _, _, _, _, hended⟩ := halted
    rw [going] at hended
    cases hended

/-- A batch ends without a result and without a refusal only where a reading of the clock fails. -/
theorem halted_of_path {concurrency : Nat} {request : Request} {world : World σ} {run : Run σ}
    (accepted : start concurrency request world = .ok run) {line : Line} (fresh : line.Carries [])
    {acts : List Act} {b : Broadcast σ} (path : Path (spawn concurrency request world line) acts b)
    {left : World σ} (ended : b.stage = .ended .clockOutOfRange left) :
    ∃ r, Run.Schedule run acts r ∧ r.canTake = true ∧ r.take = .halted .clockOutOfRange left := by
  rcases at_or_halted_of_path accepted fresh path with ⟨es, stands, -⟩ | halted
  · rw [ended] at stands
    cases stands
  · obtain ⟨r, cause, left', schedule, room, htake, hended⟩ := halted
    rw [ended] at hended
    cases cause with
    | clockOutOfRange =>
      cases hended
      exact ⟨r, schedule, room, htake⟩
    | template e => cases hended

end Broadcast

/-! ## Look-ahead -/

variable [Sink σ]

/-- When the report on a request is that the clock failed, the batch went on at once until it was
given up. -/
theorem exists_prompt_of_dispatch {concurrency : Nat} {request : Request} {world : World σ}
    {run : Run σ} (accepted : start concurrency request world = .ok run)
    (failed : (dispatch concurrency request world).1.verdict = .clockOutOfRange) :
    ∃ acts last, calls acts = callsOf concurrency request world ∧ Run.Prompt run acts last ∧
      last.advance = .halted .clockOutOfRange (dispatch concurrency request world).2 := by
  obtain ⟨acts, last, -, hcalls, path, hend, hlast⟩ := Run.prompt_of_toEnd run
  have hdispatch : dispatch concurrency request world = last.toEnd.report := by
    rw [dispatch, accepted, ← hend]
  rw [hdispatch] at failed ⊢
  refine ⟨acts, last, hcalls.trans (callsOf_of_accepted accepted).symm, path, ?_⟩
  cases h : last.advance with
  | running next => exact absurd h (hlast next)
  | complete =>
    rw [Run.toEnd_of_complete h] at failed
    cases failed
  | halted cause left =>
    rw [Run.toEnd_of_halted h] at failed ⊢
    cases cause with
    | clockOutOfRange => rfl
    | template e => cases failed

/-- The batch `run` of an accepted request looks ahead no further than its concurrency, a
concurrency of zero being one. -/
structure LookAhead (concurrency : Nat) (request : Request) (world : World σ) (run : Run σ) :
    Prop where
  /-- At any moment, in whatever order sends end and whenever the batch is cancelled. -/
  bounded : ∀ acts r, Run.Schedule run acts r → r.Span (max 1 concurrency) request world acts
  /-- So it is with a batch that is followed, for it goes by a schedule too. -/
  followed : ∀ line acts b r hand, line.Carries [] →
    Broadcast.Path (spawn concurrency request world line) acts b → b.stage = .going r hand →
      Run.Schedule run acts r
  /-- One at a time: the clock is not read again before the outcomes of all iterations taken are
  recorded and their events are gone. -/
  sequential : concurrency ≤ 1 → ∀ line acts b acts' c, line.Carries [] →
    Broadcast.Path (spawn concurrency request world line) acts b → Broadcast.Step b acts' c →
      c.stage.world.clock.reads ≠ b.stage.world.clock.reads →
        ∃ r, b.stage = .going r none ∧ c.stage.world.clock = world.clock.skip (r.taken + 1) ∧
          (finished acts).map Outcome.index = List.range' 1 r.taken ∧
          b.line.Carries (progress request acts)
  /-- When the reading for iteration `i` fails, the first `m` iterations were sent, none of them
  from `i` on, and all that had no place left beside iteration `i`; as many outcomes are
  recorded. -/
  halted : ∀ line acts b left, line.Carries [] →
    Broadcast.Path (spawn concurrency request world line) acts b →
      b.stage = .ended .clockOutOfRange left →
        ∃ i m, world.FailsAt left request.count i ∧ m < i ∧
          (calls acts).map Call.index = List.range' 1 m ∧
          i - max 1 concurrency ≤ m ∧ i - max 1 concurrency ≤ (finished acts).length
  /-- When sends are answered at once, those without a place are all that was sent, and all of it is
  recorded. -/
  prompt : ∀ acts r left, Run.Prompt run acts r → r.advance = .halted .clockOutOfRange left →
    ∃ i, world.FailsAt left request.count i ∧
      (calls acts).map Call.index = List.range' 1 (i - max 1 concurrency) ∧
      finished acts = (calls acts).map Call.outcome
  /-- So it is when the request is dispatched. -/
  dispatched : (dispatch concurrency request world).1.verdict = .clockOutOfRange →
    ∃ i, world.FailsAt (dispatch concurrency request world).2 request.count i ∧
      (callsOf concurrency request world).map Call.index =
        List.range' 1 (i - max 1 concurrency)

/-- However its sends overlap and whenever it is cancelled, no batch looks further ahead. -/
theorem lookAhead_of_start {concurrency : Nat} {request : Request} {world : World σ} {run : Run σ}
    (accepted : start concurrency request world = .ok run) :
    LookAhead concurrency request world run := by
  have prompt : ∀ acts r left, Run.Prompt run acts r → r.advance = .halted .clockOutOfRange left →
      ∃ i, world.FailsAt left request.count i ∧
        (calls acts).map Call.index = List.range' 1 (i - max 1 concurrency) ∧
        finished acts = (calls acts).map Call.outcome := by
    intro acts r left path halted
    obtain ⟨-, room, htake⟩ := Run.take_of_advance halted
    obtain ⟨hindices, hrecorded⟩ := Run.started_of_prompt accepted path halted
    exact ⟨_, Run.failsAt_of_take accepted path.schedule room htake, hindices, hrecorded⟩
  constructor
  case bounded => exact fun acts r path => Run.span_of_schedule accepted path
  case followed =>
    intro line acts b r hand fresh path going
    exact Broadcast.schedule_of_path accepted fresh path going
  case sequential =>
    intro narrow line acts b acts' c fresh path next reads
    exact Broadcast.recorded_of_clock narrow accepted fresh path next reads
  case halted =>
    intro line acts b left fresh path ended
    obtain ⟨r, schedule, room, htake⟩ := Broadcast.halted_of_path accepted fresh path ended
    obtain ⟨hindices, hle, hstarted, hrecorded⟩ := Run.started_of_room accepted schedule room
    exact ⟨_, _, Run.failsAt_of_take accepted schedule room htake, Nat.lt_succ_of_le hle, hindices,
      hstarted, hrecorded⟩
  case prompt => exact prompt
  case dispatched =>
    intro failed
    obtain ⟨acts, last, hcalls, path, halted⟩ := exists_prompt_of_dispatch accepted failed
    obtain ⟨i, hfails, hindices, -⟩ := prompt acts last _ path halted
    rw [hcalls] at hindices
    exact ⟨i, hfails, hindices⟩

/-- The clock of a batch of five messages fails with the fourth, at a concurrency of two. When the
second send ends before the first, three are sent by then; when each ends at once, two. -/
theorem lookAhead_of_failing_clock :
    let request : Request := ⟨"server", "topic", {}, 5⟩
    let late : Time.Instant :=
      ⟨Time.maxSecs - 2, 0, by decide, by decide, by decide, by decide⟩
    let world : World Rehearsal := { World.rehearsal [] with clock := .stepping late 1000 }
    ∃ run acts left line, start 2 request world = .ok run ∧
      Broadcast.Path (spawn 2 request world .fresh) acts ⟨.ended .clockOutOfRange left, line⟩ ∧
      world.FailsAt left 5 4 ∧ (calls acts).map Call.index = [1, 2, 3] ∧
      (finished acts).map Outcome.index = [2, 1] ∧
      (dispatch 2 request world).1.verdict = .clockOutOfRange ∧
      (callsOf 2 request world).map Call.index = [1, 2] ∧ LookAhead 2 request world run := by
  intro request late world
  let second (n : Fin 3) : Time.Instant :=
    ⟨Time.maxSecs - 2 + n.val, 0, by decide +revert, by decide +revert, by decide, by decide +revert⟩
  have readings : ∀ n : Fin 3, world.clock.reading n = some (second n) := by decide +kernel
  -- The fourth reading would be beyond the last second that can be told.
  have failing : world.clock.reading 3 = none := by decide +kernel
  have haccept : Request.accept ⟨"server", "topic", {}, 5⟩ = .ok ⟨none, none, []⟩ := rfl
  have accepted : start 2 request world = .ok (.begin request ⟨none, none, []⟩ 2 world) :=
    Run.start_of_accept haccept 2 world
  have path : Broadcast.Path
      ⟨.going (.begin request ⟨none, none, []⟩ 2 world) (some (.started 5)), .fresh⟩ _ _ :=
    .head (.put rfl) <|
    .head (.act (.take rfl (Run.take_of_made (readings 0) rfl) rfl) (.inl rfl)) <|
    .head (.act (.take rfl (Run.take_of_made (readings 1) rfl) rfl) (.inl rfl)) <|
    .head (.act (.send _ _ rfl rfl) (.inl rfl)) <| .head (.act (.send _ _ rfl rfl) (.inl rfl)) <|
    .head (.act (.finish [_] _ [] rfl) (.inl rfl)) <| .head (.put rfl) <|
    .head (.act (.take rfl (Run.take_of_made (readings 2) rfl) rfl) (.inl rfl)) <|
    .head (.act (.send _ _ rfl rfl) (.inl rfl)) <|
    .head (.act (.finish [] _ [_] rfl) (.inl rfl)) <| .head (.put rfl) <|
    .single (.halt rfl (Run.take_of_failing failing))
  have hspawn : spawn 2 request world .fresh =
      ⟨.going (.begin request ⟨none, none, []⟩ 2 world) (some (.started 5)), .fresh⟩ := by
    rw [spawn, accepted]
  have fails : world.FailsAt
      { world with
        clock := world.clock.skip 4
        sink := { taken := 3, deliveries := List.replicate 3 ⟨"server", "topic", ⟨none, none, []⟩⟩ } }
      5 4 := by
    constructor
    case inRange =>
      intro n hn
      exact ⟨_, (congrArg world.clock.reading (Nat.zero_add n)).trans (readings ⟨n, hn⟩)⟩
    case failing => exact failing
    case clock_eq => rfl
    all_goals decide
  rw [hspawn]
  exact ⟨_, _, _, _, accepted, path, fails, rfl, rfl, by decide +kernel, by decide +kernel,
    lookAhead_of_start accepted⟩

end Courier.Batch
