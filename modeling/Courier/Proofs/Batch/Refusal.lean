import Courier.Proofs.Batch.Accounting
import Courier.Proofs.Template.Judgement

/-!
# Requests are refused for their first fault or carried out

A request with faults is refused for the first of them before anything is read, drawn, sent or
reported. A request without any is never given up, however its sends overlap: the formats that could
make a message fail were all judged before, and steps change neither the template nor what the clock
is going to read.
-/

namespace Courier.Batch

open Courier.Template

/-! ## Requests -/

namespace Request

/-- A request is refused for its first fault. -/
theorem refusal?_accept (r : Request) : refusal? r.accept = r.faults.head? := by
  rw [accept, validate, faults, MessageTemplate.faults]
  by_cases hcount : r.count = 0
  · simp [hcount, refusal?]
  · by_cases htopic : Text.trim r.topic = ""
    · simp [hcount, htopic, refusal?]
    · have hparse := CompiledTemplate.refusal?_compile r.template
      rw [if_neg hcount, if_neg htopic, if_neg hcount, if_neg htopic, List.nil_append,
        List.nil_append, List.head?_map, List.head?_append, ← hparse]
      cases compiled : CompiledTemplate.compile r.template with
      | error e => rfl
      | ok t =>
        rw [← CompiledTemplate.refusal?_validate compiled]
        dsimp only
        cases t.validate <;> rfl

/-- What there is to find fault with in a request. -/
theorem faults_ne_nil_iff (r : Request) :
    r.faults ≠ [] ↔
      r.count = 0 ∨ Text.trim r.topic = "" ∨
        (∃ p ∈ r.template.texts, ∃ e, Field.parse p.2 = .error e) ∨
        ∃ p ∈ r.template.texts, ∃ f, Field.parse p.2 = .ok f ∧
          ∃ q ∈ f.placeholders, ∃ e, Directive.classify q.name q.format = .error e := by
  have happend : ∀ as bs : List DispatchError, as ++ bs ≠ [] ↔ as ≠ [] ∨ bs ≠ [] := by
    intro as bs
    rw [ne_eq, List.append_eq_nil_iff, not_and_or]
  have htemplate : r.template.faults.map DispatchError.template ≠ [] ↔
      r.template.parseFaults ≠ [] ∨ r.template.formatFaults ≠ [] := by
    rw [ne_eq, List.map_eq_nil_iff, MessageTemplate.faults, List.append_eq_nil_iff, not_and_or]
  rw [faults, happend, happend, htemplate, MessageTemplate.parseFaults_ne_nil_iff,
    MessageTemplate.formatFaults_ne_nil_iff, or_assoc]
  simp

/-- What is accepted, and as what. -/
theorem accept_eq_ok_iff {r : Request} {t : CompiledTemplate} :
    r.accept = .ok t ↔
      r.validate = .ok () ∧ CompiledTemplate.compile r.template = .ok t ∧ t.validate = .ok () := by
  rw [accept]
  cases hrequest : r.validate with
  | error e => simp
  | ok u =>
    cases compiled : CompiledTemplate.compile r.template with
    | error e => simp
    | ok c =>
      dsimp only
      constructor
      · intro accepted
        cases hvalid : c.validate with
        | error e =>
          rw [hvalid] at accepted
          cases accepted
        | ok u =>
          rw [hvalid] at accepted
          cases accepted
          exact ⟨rfl, rfl, hvalid⟩
      · rintro ⟨-, hsame, hvalid⟩
        cases hsame
        rw [hvalid]

/-- What is accepted is in order. -/
theorem validate_of_accept {r : Request} {t : CompiledTemplate} (accepted : r.accept = .ok t) :
    t.validate = .ok () :=
  (accept_eq_ok_iff.mp accepted).2.2

end Request

namespace Run

variable {σ : Type}

/-! ## What steps leave alone -/

/-- A batch makes its messages as `before` would: from the same template, through the same window,
with one reading of the same clock for each iteration taken. -/
structure Keeps (before r : Run σ) : Prop where
  request_eq : r.request = before.request
  template_eq : r.template = before.template
  window_eq : r.window = before.window
  reading_eq : r.world.clock.reading = before.world.clock.reading
  reads_eq : r.world.clock.reads + before.taken = before.world.clock.reads + r.taken

variable [Sink σ]

/-- After a step messages are made as before. -/
theorem Keeps.step {before r r' : Run σ} {act : Act} (h : Keeps before r) (next : Step r act r') :
    Keeps before r' := by
  obtain ⟨request_eq, template_eq, window_eq, reading_eq, reads_eq⟩ := h
  cases next with
  | take room made waits =>
    obtain ⟨instant, message, desk, -, -, rfl⟩ := take_eq_running made
    refine ⟨request_eq, template_eq, window_eq, reading_eq, ?_⟩
    show r.world.clock.reads + 1 + before.taken = before.world.clock.reads + (r.taken + 1)
    omega
  | send first rest waits live =>
    rw [start_of_live live]
    exact ⟨request_eq, template_eq, window_eq, reading_eq, reads_eq⟩
  | drop first rest waits cancelled =>
    rw [start_of_cancelled cancelled]
    exact ⟨request_eq, template_eq, window_eq, reading_eq, reads_eq⟩
  | finish => exact ⟨request_eq, template_eq, window_eq, reading_eq, reads_eq⟩
  | cancel => exact ⟨request_eq, template_eq, window_eq, reading_eq, reads_eq⟩

/-- However far a batch has come, it makes its messages as it did at first. -/
theorem keeps_of_schedule {before r : Run σ} {acts : List Act} (path : Schedule before acts r) :
    Keeps before r := by
  induction path with
  | refl => exact ⟨rfl, rfl, rfl, rfl, rfl⟩
  | step _ next ih => exact ih.step next

/-- An accepted request has room for at least one send. -/
theorem window_pos_of_start {concurrency : Nat} {request : Request} {world : World σ} {run r : Run σ}
    {acts : List Act} (accepted : Batch.start concurrency request world = .ok run)
    (path : Schedule run acts r) : 0 < r.window := by
  obtain ⟨template, -, rfl⟩ := eq_begin_of_start accepted
  rw [(keeps_of_schedule path).window_eq]
  exact Nat.le_max_left 1 concurrency

/-- What is taken and not yet finished stays within the window. -/
theorem held_le_of_step {r r' : Run σ} {act : Act}
    (h : r.waiting.length + r.inFlight.length ≤ r.window) (next : Step r act r') :
    r'.waiting.length + r'.inFlight.length ≤ r'.window := by
  cases next with
  | take room made waits =>
    obtain ⟨instant, message, desk, -, -, rfl⟩ := take_eq_running made
    -- Only here is one more held, and there was a place for it.
    obtain ⟨-, -, hlt⟩ := canTake_iff.mp room
    simp only [List.length_append, List.length_singleton]
    omega
  | send first rest waits live =>
    rw [waits, List.length_cons] at h
    rw [start_of_live live]
    simp only [List.length_append, List.length_singleton]
    omega
  | drop first rest waits cancelled =>
    rw [waits, List.length_cons] at h
    rw [start_of_cancelled cancelled]
    dsimp only
    omega
  | finish before o after flies =>
    rw [flies, List.length_append, List.length_cons] at h
    simp only [finish, List.length_append]
    omega
  | cancel => exact h

/-- A batch that holds no more messages than its window never does. -/
theorem Schedule.held_le {r r' : Run σ} {acts : List Act} (path : Schedule r acts r')
    (h : r.waiting.length + r.inFlight.length ≤ r.window) :
    r'.waiting.length + r'.inFlight.length ≤ r'.window := by
  induction path with
  | refl => exact h
  | step _ next ih => exact held_le_of_step ih next

/-! ## Batches that are never given up -/

omit [Sink σ] in
/-- An iteration can be taken if the template is in order and the clock goes on. -/
theorem take_of_validate {r : Run σ} {instant : Time.Instant}
    (valid : r.template.validate = .ok ())
    (reading : r.world.clock.reading r.world.clock.reads = some instant) :
    ∃ next, r.take = .running next := by
  cases htake : r.take with
  | running next => exact ⟨next, rfl⟩
  | complete => exact absurd htake (take_ne_complete r)
  | halted cause world =>
    obtain ⟨-, ⟨-, hnone⟩ | ⟨instant, e, desk, -, hmade⟩⟩ := take_eq_halted htake
    · rw [hnone] at reading
      cases reading
    · obtain ⟨message, desk', hmade'⟩ := CompiledTemplate.materializeIn_of_validate valid
        (.make (r.taken + 1) instant false) r.world.supply
      rw [hmade'] at hmade
      cases hmade

/-- A batch that is not over has a next step, unless an iteration cannot be taken. -/
theorem step_of_not_isOver {r : Run σ} (takes : r.canTake = true → ∃ next, r.take = .running next)
    (h : r.isOver = false) : ∃ act next, act ≠ .cancel ∧ Step r act next := by
  by_cases room : r.canTake = true
  · obtain ⟨next, htake⟩ := takes room
    obtain ⟨message, hstep⟩ := step_of_take room htake
    exact ⟨_, next, by simp, hstep⟩
  · cases waits : r.waiting with
    | cons first rest =>
      obtain ⟨act, hact, hstep⟩ := step_of_start waits
      exact ⟨act, _, hact, hstep⟩
    | nil =>
      cases flies : r.inFlight with
      | cons o rest => exact ⟨_, _, by simp, .finish [] o rest flies⟩
      | nil => simp [isOver, room, waits, flies] at h

/-- Wherever the batch of an accepted request stands, the next iteration can be taken. -/
theorem take_of_schedule {concurrency : Nat} {request : Request} {world : World σ}
    (inRange : world.clock.InRange request.count) {run last : Run σ} {acts : List Act}
    (accepted : Batch.start concurrency request world = .ok run) (path : Schedule run acts last)
    (room : last.canTake = true) : ∃ next, last.take = .running next := by
  obtain ⟨template, haccept, rfl⟩ := eq_begin_of_start accepted
  obtain ⟨request_eq, template_eq, -, reading_eq, reads_eq⟩ := keeps_of_schedule path
  have hcount : last.taken < request.count := by
    have := (canTake_iff.mp room).2.1
    rwa [request_eq] at this
  obtain ⟨instant, hinstant⟩ := inRange last.taken hcount
  have hreads : last.world.clock.reads = world.clock.reads + last.taken := reads_eq
  have valid : last.template.validate = .ok () := by
    rw [template_eq]
    exact Request.validate_of_accept haccept
  have reading : last.world.clock.reading last.world.clock.reads = some instant := by
    rw [reading_eq, hreads]
    exact hinstant
  exact take_of_validate valid reading

/-- Each step but a cancellation from outside leaves less to do. -/
theorem remaining_lt_of_step {r r' : Run σ} {act : Act} (next : Step r act r')
    (inside : act ≠ .cancel) : r'.remaining < r.remaining := by
  cases next with
  | take room made waits =>
    obtain ⟨instant, message, desk, -, -, rfl⟩ := take_eq_running made
    have hroom : r.taken < r.request.count := (canTake_iff.mp room).2.1
    simp only [remaining, List.length_append, List.length_singleton]
    omega
  | send first rest waits live =>
    have hwaiting : r.waiting.length = rest.length + 1 := by rw [waits, List.length_cons]
    rw [start_of_live live]
    simp only [remaining, List.length_append, List.length_singleton]
    omega
  | drop first rest waits cancelled =>
    have hwaiting : r.waiting.length = rest.length + 1 := by rw [waits, List.length_cons]
    rw [start_of_cancelled cancelled]
    simp only [remaining]
    omega
  | finish before o after flies =>
    have hflies : r.inFlight.length = (before ++ after).length + 1 := by
      rw [flies, List.length_append, List.length_append, List.length_cons, Nat.add_assoc]
    simp only [remaining, finish]
    omega
  -- Cancelling can be repeated for ever.
  | cancel => exact absurd rfl inside

/-- So a schedule without such cancellations is no longer than what there was to do. -/
theorem Schedule.length_le {r r' : Run σ} {acts : List Act} (path : Schedule r acts r')
    (inside : .cancel ∉ acts) : acts.length + r'.remaining ≤ r.remaining := by
  induction path with
  | refl => simp
  | @step acts act r' r'' _ next ih =>
    rw [List.mem_append, List.mem_singleton, not_or] at inside
    have hlt := remaining_lt_of_step next (Ne.symm inside.2)
    have hle := ih inside.1
    rw [List.length_append, List.length_singleton]
    omega

/-- A batch comes to its end: no schedule is stuck before it is over, and none goes on for ever
unless it is cancelled from outside again and again. -/
structure Terminates (run : Run σ) : Prop where
  goes_on : ∀ acts r, Schedule run acts r → r.isOver = false →
    ∃ act next, act ≠ .cancel ∧ Step r act next
  bounded : ∀ acts r, .cancel ∉ acts → Schedule run acts r → acts.length ≤ 3 * run.request.count

/-- A batch whose readings are in range ends on every schedule. -/
theorem terminates_of_start {concurrency : Nat} {request : Request} {world : World σ}
    (inRange : world.clock.InRange request.count) {run : Run σ}
    (accepted : Batch.start concurrency request world = .ok run) : Terminates run where
  goes_on := by
    intro acts r path running
    exact step_of_not_isOver (take_of_schedule inRange accepted path) running
  bounded := by
    intro acts r inside path
    obtain ⟨template, -, rfl⟩ := eq_begin_of_start accepted
    have hlength := path.length_le inside
    have hbegin : (begin request template (max 1 concurrency) world).remaining = 3 * request.count :=
      rfl
    have hcount : (begin request template (max 1 concurrency) world).request.count = request.count :=
      rfl
    omega

end Run

/-! ## What becomes of a request -/

variable {σ : Type} [Sink σ]

omit [Sink σ] in
/-- A batch is refused with the first fault of its request. -/
theorem start_eq_error_iff {concurrency : Nat} {request : Request} {world : World σ}
    {e : DispatchError} :
    start concurrency request world = .error e ↔ request.faults.head? = some e := by
  rw [← Request.refusal?_accept, refusal?_eq_some, start]
  cases request.accept <;> simp [Except.map]

omit [Sink σ] in
/-- What is accepted has no faults. -/
theorem faults_eq_nil_of_start {concurrency : Nat} {request : Request} {world : World σ}
    {run : Run σ} (accepted : start concurrency request world = .ok run) : request.faults = [] := by
  rw [← List.head?_eq_none_iff, Option.eq_none_iff_forall_ne_some]
  intro e hfault
  rw [start_eq_error_iff.mpr hfault] at accepted
  cases accepted

/-- From wherever it stands, a batch that was accepted runs to its end, and goes by a schedule. -/
theorem exists_complete_of_schedule {concurrency : Nat} {request : Request} {world : World σ}
    (inRange : world.clock.InRange request.count) {run r : Run σ} {acts : List Act}
    (accepted : start concurrency request world = .ok run) (path : Run.Schedule run acts r) :
    ∃ acts' last, .cancel ∉ acts' ∧ calls acts' = r.callsToEnd ∧ Run.Schedule r acts' last ∧
      last.isOver = true ∧ r.toEnd = .complete last := by
  obtain ⟨acts', last, inside, hcalls, path', ending⟩ := Run.schedule_of_toEnd r
  cases hend : r.toEnd with
  | complete r' =>
    rw [hend] at ending
    obtain ⟨rfl, ended⟩ := ending
    exact ⟨acts', r', inside, hcalls, path', ended, rfl⟩
  | halted cause left =>
    rw [hend] at ending
    obtain ⟨next, htake⟩ := Run.take_of_schedule inRange accepted (path.trans path') ending.1
    rw [ending.2] at htake
    cases htake

/-- A batch whose readings are in range completes, and its way to the end is a schedule. -/
theorem exists_complete_of_start {concurrency : Nat} {request : Request} {world : World σ}
    (inRange : world.clock.InRange request.count) {run : Run σ}
    (accepted : start concurrency request world = .ok run) :
    ∃ acts last, .cancel ∉ acts ∧ calls acts = run.callsToEnd ∧ Run.Schedule run acts last ∧
      last.isOver = true ∧ run.toEnd = .complete last :=
  exists_complete_of_schedule inRange accepted .refl

/-- A batch whose readings are in range has a result. -/
theorem exists_done_of_start {concurrency : Nat} {request : Request} {world : World σ}
    (inRange : world.clock.InRange request.count) {run : Run σ}
    (accepted : start concurrency request world = .ok run) :
    ∃ result, (dispatch concurrency request world).1.verdict = .done result := by
  obtain ⟨acts, last, -, -, -, -, hend⟩ := exists_complete_of_start inRange accepted
  rw [dispatch_of_complete accepted hend]
  exact ⟨last.tally.finalize, rfl⟩

end Courier.Batch
