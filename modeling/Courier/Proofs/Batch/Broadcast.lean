import Courier.Batch.Broadcast
import Courier.Proofs.Batch.Prefix

/-!
# The events of a batch are a faithful log of it

An outcome is recorded in the step from which its event arises, and the batch goes on only when the
event is gone from its hand. So the events received, those in the channel and the one in hand are,
at any moment and in this order, the start and the outcomes recorded so far; the result follows when
the batch is over, and nothing follows the result. A batch that is refused has no events. Whether
anybody follows the batch changes nothing but how long it waits, so that the same steps lead to the
same end.
-/

namespace Courier.Batch

variable {σ : Type}

/-! ## Channels -/

namespace Line

/-- These events, and no others, were put in. -/
def Carries : Line → List Event → Prop
  | .absent, _ => True
  | .connected queue received, es => received ++ queue = es
  | .dropped received, es => received <+: es

/-- A line with room takes one more event behind those that it carries. -/
theorem Carries.put {line line' : Line} {es : List Event} {e : Event} (h : line.Carries es)
    (room : line.put? e = some line') : line'.Carries (es ++ [e]) := by
  cases line with
  | absent =>
    cases room
    trivial
  | connected queue received =>
    rw [put?] at room
    split at room
    · cases room
      show received ++ (queue ++ [e]) = es ++ [e]
      rw [← List.append_assoc, show received ++ queue = es from h]
    · cases room
  | dropped received =>
    cases room
    exact List.IsPrefix.trans h (List.prefix_append es [e])

/-- Receiving an event takes it from the queue and loses none. -/
theorem Carries.receive {queue received es : List Event} {e : Event}
    (h : (Line.connected (e :: queue) received).Carries es) :
    (Line.connected queue (received ++ [e])).Carries es := by
  show received ++ [e] ++ queue = es
  rw [List.append_assoc]
  exact h

/-- What was received before the line was dropped is a front part of what it carried. -/
theorem Carries.leave {queue received es : List Event}
    (h : (Line.connected queue received).Carries es) : (Line.dropped received).Carries es :=
  ⟨queue, h⟩

/-- What was not lost came first. -/
theorem Carries.prefix_events {line : Line} {es : List Event} (h : line.Carries es) :
    line.events <+: es := by
  cases line with
  | absent => exact List.nil_prefix
  | connected queue received => exact ⟨[], (List.append_nil _).trans h⟩
  | dropped received => exact h

end Line

/-! ## Events of a schedule -/

namespace Run

variable [Sink σ]

/-- A step emits the event of its act and no other. -/
theorem events_of_step {r r' : Run σ} {act : Act} (next : Step r act r') :
    r'.events = act.event?.toList ++ r.events := by
  cases next with
  | take room made waits =>
    obtain ⟨instant, message, desk, -, -, rfl⟩ := take_eq_running made
    rfl
  | send first rest waits live =>
    rw [start_of_live live]
    rfl
  | drop first rest waits cancelled =>
    rw [start_of_cancelled cancelled]
    rfl
  | finish before o after flies => rfl
  | cancel => rfl

/-- The events are those of the outcomes in the order in which they were recorded. -/
theorem Schedule.events_eq {run r : Run σ} {acts : List Act} (path : Schedule run acts r) :
    r.events.reverse = run.events.reverse ++ (finished acts).map .outcome := by
  induction path with
  | refl => exact (List.append_nil _).symm
  | @step acts act r r' _ next ih =>
    have hevent : act.event?.toList.reverse = act.outcome?.toList.map .outcome := by
      rw [Act.event?]
      cases act.outcome? <;> rfl
    rw [events_of_step next, List.reverse_append, ih, finished_concat, List.map_append, hevent,
      List.append_assoc]

/-- With room for one, outcomes are recorded in the order of the calls. -/
theorem Schedule.finished_of_narrow {run r : Run σ} {acts : List Act} (path : Schedule run acts r)
    (window : run.window = 1) (waiting : run.waiting = []) (landed : run.inFlight = []) :
    finished acts ++ r.inFlight = (calls acts).map Call.outcome := by
  induction path with
  | refl =>
    rw [landed]
    rfl
  | @step acts act r r' path next horder =>
    -- The window has one place, so that nothing is in flight beside the message at hand.
    have hroom : r.waiting.length + r.inFlight.length ≤ 1 := by
      have hheld := path.held_le (by simp [waiting, landed])
      rwa [(keeps_of_schedule path).window_eq, window] at hheld
    rw [finished_concat, calls_concat, List.map_append, ← horder]
    cases next with
    | @take _ message room made waits =>
      obtain ⟨instant, message', desk, -, -, rfl⟩ := take_eq_running made
      simp [Act.outcome?, Act.call?]
    | send first rest waits live =>
      rw [waits, List.length_cons] at hroom
      have hlanded : r.inFlight = [] := List.length_eq_zero_iff.mp (by omega)
      rw [start_of_live live, hlanded]
      simp [Act.outcome?, Act.call?, Call.outcome, call]
    | drop first rest waits cancelled =>
      rw [start_of_cancelled cancelled]
      simp [Act.outcome?, Act.call?]
    | finish before o after flies =>
      rw [flies, List.length_append, List.length_cons] at hroom
      have hbefore : before = [] := List.length_eq_zero_iff.mp (by omega)
      have hafter : after = [] := List.length_eq_zero_iff.mp (by omega)
      rw [flies, hbefore, hafter]
      simp [Act.outcome?, Act.call?, finish]
    | cancel => simp [Act.outcome?, Act.call?, cancel]

end Run

/-! ## Where a batch stands -/

/-- Only the last event ends a broadcast. -/
theorem Stage.after_of_inside (r : Run σ) {e : Event} (inside : ∀ result, e ≠ .finished result) :
    Stage.after r e = .going r none := by
  cases e with
  | finished result => exact absurd rfl (inside result)
  | started count => rfl
  | outcome o => rfl

variable [Sink σ]

/-- A batch that began as `run` has done these steps, and has put in or lost these events. -/
inductive Stage.At (run : Run σ) (acts : List Act) : Stage σ → List Event → Prop where
  | free {r : Run σ} (path : Run.Schedule run acts r) : At run acts (.going r none) r.events.reverse
  | holding {r : Run σ} {e : Event} {es : List Event} (path : Run.Schedule run acts r)
    (events_eq : r.events.reverse = es ++ [e]) (inside : ∀ result, e ≠ .finished result) :
    At run acts (.going r (some e)) es
  | closing {r : Run σ} (path : Run.Schedule run acts r) (complete : r.isOver = true) :
    At run acts (.going r (some (.finished r.tally.finalize))) r.events.reverse
  | ended {r : Run σ} (path : Run.Schedule run acts r) (complete : r.isOver = true) :
    At run acts (.ended (.done r.tally.finalize) r.world)
      (r.events.reverse ++ [.finished r.tally.finalize])

/-- A batch that began as `run` has done these steps and was given up then, because an iteration
could not be taken. -/
def Stage.Halted (run : Run σ) (acts : List Act) (stage : Stage σ) : Prop :=
  ∃ r cause left, Run.Schedule run acts r ∧ r.canTake = true ∧ r.take = .halted cause left ∧
    stage = .ended (Run.Ending.halted cause left).report.1.verdict left

/-- The events of a batch up to its result. -/
def progress (request : Request) (acts : List Act) : List Event :=
  .started request.count :: (finished acts).map .outcome

/-- The events of a batch are its progress. -/
theorem Run.Schedule.events_eq_progress {concurrency : Nat} {request : Request} {world : World σ}
    {run r : Run σ} {acts : List Act} (path : Run.Schedule run acts r)
    (accepted : Batch.start concurrency request world = .ok run) :
    r.events.reverse = progress request acts := by
  obtain ⟨template, -, rfl⟩ := Run.eq_begin_of_start accepted
  exact path.events_eq

namespace Broadcast

/-- Each step keeps it so, unless it is the end because an iteration cannot be taken. -/
theorem at_or_halted_of_step {run : Run σ} {acts acts' : List Act} {b c : Broadcast σ}
    {es : List Event} (stands : b.stage.At run acts es) (carries : b.line.Carries es)
    (next : Step b acts' c) :
    (∃ es', c.stage.At run (acts ++ acts') es' ∧ c.line.Carries es') ∨
      c.stage.Halted run (acts ++ acts') := by
  cases next with
  | @act r r' hand line act next free =>
    left
    have hevents := congrArg List.reverse (Run.events_of_step next)
    rw [List.reverse_append] at hevents
    cases stands with
    | free path =>
      have path' := path.step next
      cases hevent : act.event? with
      | none =>
        rw [hevent] at hevents
        have hsame : r'.events.reverse = r.events.reverse := hevents.trans (List.append_nil _)
        exact ⟨r'.events.reverse, .free path', hsame ▸ carries⟩
      | some e =>
        rw [hevent] at hevents
        refine ⟨r.events.reverse, .holding path' hevents ?_, carries⟩
        intro result hresult
        obtain ⟨o, -, houtcome⟩ := Option.map_eq_some_iff.mp hevent
        rw [hresult] at houtcome
        cases houtcome
    | holding path events_eq inside =>
      -- With an event in hand the batch waits: all that can happen to it is to be cancelled.
      have hact : act = .cancel := free.resolve_left (by simp)
      subst hact
      exact ⟨es, .holding (path.step next) ((hevents.trans (List.append_nil _)).trans events_eq)
        inside, carries⟩
    | closing path complete =>
      have hact : act = .cancel := free.resolve_left (by simp)
      subst hact
      have path' := path.step next
      cases next
      obtain ⟨-, hwaiting, hflies⟩ := Run.isOver_iff.mp complete
      have complete' : r.cancel.isOver = true :=
        Run.isOver_iff.mpr ⟨Run.canTake_of_cancelled rfl, hwaiting, hflies⟩
      exact ⟨r.cancel.events.reverse, .closing path' complete', carries⟩
  | halt room halted =>
    right
    rw [List.append_nil]
    cases stands with
    | free path => exact ⟨_, _, _, path, room, halted, rfl⟩
  | conclude complete =>
    left
    rw [List.append_nil]
    cases stands with
    | free path => exact ⟨_, .closing path complete, carries⟩
  -- The event in hand goes behind those that the line carries already.
  | @put r e line line' room =>
    left
    rw [List.append_nil]
    refine ⟨es ++ [e], ?_, carries.put room⟩
    cases stands with
    | holding path events_eq inside =>
      rw [Stage.after_of_inside r inside, ← events_eq]
      exact .free path
    | closing path complete => exact .ended path complete
  | receive =>
    left
    rw [List.append_nil]
    exact ⟨es, stands, carries.receive⟩
  | leave =>
    left
    rw [List.append_nil]
    exact ⟨es, stands, carries.leave⟩

/-- After its end a batch does nothing, and no event is put in. -/
theorem eq_of_ended {verdict : Verdict} {left : World σ} {line : Line} {acts : List Act}
    {b : Broadcast σ} (path : Path ⟨.ended verdict left, line⟩ acts b) :
    acts = [] ∧ b.stage = .ended verdict left ∧ ∀ es, line.Carries es → b.line.Carries es := by
  induction path with
  | refl => exact ⟨rfl, rfl, fun es h => h⟩
  | @step acts acts' c d _ next ih =>
    obtain ⟨hacts, hstage, hline⟩ := ih
    rw [hacts, List.nil_append]
    cases next with
    | act next free => cases hstage
    | halt room halted => cases hstage
    | conclude complete => cases hstage
    | put room => cases hstage
    | receive => exact ⟨rfl, hstage, fun es h => (hline es h).receive⟩
    | leave => exact ⟨rfl, hstage, fun es h => (hline es h).leave⟩

/-- So it is at any moment. -/
theorem at_or_halted_of_path {concurrency : Nat} {request : Request} {world : World σ} {run : Run σ}
    (accepted : start concurrency request world = .ok run) {line : Line} (fresh : line.Carries [])
    {acts : List Act} {b : Broadcast σ} (path : Path (spawn concurrency request world line) acts b) :
    (∃ es, b.stage.At run acts es ∧ b.line.Carries es) ∨ b.stage.Halted run acts := by
  induction path with
  | refl =>
    refine Or.inl ⟨[], ?_, ?_⟩
    · obtain ⟨template, -, rfl⟩ := Run.eq_begin_of_start accepted
      rw [spawn, accepted]
      exact .holding .refl rfl (by simp)
    · rw [spawn, accepted]
      exact fresh
  | @step acts acts' c d _ next ih =>
    obtain ⟨es, stands, carries⟩ | ⟨r, cause, left, path, room, halted, hstage⟩ := ih
    · exact at_or_halted_of_step stands carries next
    · obtain ⟨stage, line⟩ := c
      cases hstage
      obtain ⟨hacts, hended, -⟩ := eq_of_ended (.single next)
      rw [hacts, List.append_nil]
      exact Or.inr ⟨r, cause, left, path, room, halted, hended⟩

/-- As long as the clock goes on, no batch is given up. -/
theorem at_of_path {concurrency : Nat} {request : Request} {world : World σ}
    (inRange : world.clock.InRange request.count) {run : Run σ}
    (accepted : start concurrency request world = .ok run) {line : Line} (fresh : line.Carries [])
    {acts : List Act} {b : Broadcast σ} (path : Path (spawn concurrency request world line) acts b) :
    ∃ es, b.stage.At run acts es ∧ b.line.Carries es := by
  rcases at_or_halted_of_path accepted fresh path with stands | ⟨r, _, _, schedule, room, halted, -⟩
  · exact stands
  · obtain ⟨next, htake⟩ := Run.take_of_schedule inRange accepted schedule room
    rw [halted] at htake
    cases htake

/-! ## Any line will do -/

/-- Where a line comes to when nobody leaves and all events are taken out. -/
inductive Drains : Line → Line → Prop where
  | absent : Drains .absent .absent
  | connected {queue received received' : List Event} :
    Drains (.connected queue received) (.connected [] received')
  | dropped {received : List Event} : Drains (.dropped received) (.dropped received)

omit [Sink σ] in
/-- Draining a line goes on where it was left. -/
theorem Drains.trans {a b c : Line} (ab : Drains a b) (bc : Drains b c) : Drains a c := by
  cases ab with
  | absent => exact bc
  | connected =>
    cases bc
    exact .connected
  | dropped => exact bc

/-- All that is queued can be received, one event after the other. -/
theorem path_receive (stage : Stage σ) (queue received : List Event) :
    Path ⟨stage, .connected queue received⟩ [] ⟨stage, .connected [] (received ++ queue)⟩ := by
  induction queue generalizing received with
  | nil =>
    rw [List.append_nil]
    exact .refl
  | cons e queue ih =>
    have hrest := ih (received ++ [e])
    rw [List.append_assoc] at hrest
    exact .head .receive hrest

/-- Any line can be drained while the batch waits. -/
theorem exists_drained (stage : Stage σ) (line : Line) :
    ∃ line', Drains line line' ∧ Path ⟨stage, line⟩ [] ⟨stage, line'⟩ := by
  cases line with
  | absent => exact ⟨_, .absent, .refl⟩
  | connected queue received => exact ⟨_, .connected, path_receive stage queue received⟩
  | dropped received => exact ⟨_, .dropped, .refl⟩

/-- No event stays in hand. -/
theorem exists_put (r : Run σ) (e : Event) (line : Line) :
    ∃ line', Drains line line' ∧ Path ⟨.going r (some e), line⟩ [] ⟨.after r e, line'⟩ := by
  obtain ⟨drained, hdrained, path⟩ := exists_drained (.going r (some e)) line
  have hroom : ∃ line', drained.put? e = some line' := by
    cases hdrained
    all_goals exact ⟨_, rfl⟩
  obtain ⟨filled, room⟩ := hroom
  obtain ⟨line', hline', path'⟩ := exists_drained (.after r e) filled
  have hfilled : Drains drained line' := by
    cases hdrained
    all_goals
      cases room
      cases hline'
      constructor
  exact ⟨line', hdrained.trans hfilled, (path.step (.put room)).trans path'⟩

/-- What a batch does on one line it can do on any other, and come to stand where it stood. -/
theorem exists_path_of_line {b c : Broadcast σ} {acts : List Act} (path : Path b acts c)
    (line : Line) : ∃ line', Drains line line' ∧ Path ⟨b.stage, line⟩ acts ⟨c.stage, line'⟩ := by
  induction path with
  | refl => exact exists_drained b.stage line
  | step _ next ih =>
    obtain ⟨between, hbetween, path⟩ := ih
    cases next with
    | act next free => exact ⟨between, hbetween, path.step (.act next free)⟩
    | halt room halted => exact ⟨between, hbetween, path.step (.halt room halted)⟩
    | conclude complete => exact ⟨between, hbetween, path.step (.conclude complete)⟩
    | @put r e _ _ room =>
      obtain ⟨line', hline', path'⟩ := exists_put r e between
      exact ⟨line', hbetween.trans hline', path.trans path'⟩
    | receive => exact ⟨between, hbetween, (List.append_nil _).symm ▸ path⟩
    | leave => exact ⟨between, hbetween, (List.append_nil _).symm ▸ path⟩

/-- What a batch can do at all, it can do with any line. -/
theorem exists_path_of_schedule {r r' : Run σ} {acts : List Act} (path : Run.Schedule r acts r')
    (line : Line) :
    ∃ line', Drains line line' ∧ Path ⟨.going r none, line⟩ acts ⟨.going r' none, line'⟩ := by
  induction path with
  | refl => exact exists_drained _ line
  | @step acts act r' r'' _ next ih =>
    obtain ⟨between, hbetween, path⟩ := ih
    have path' := path.step (.act next (.inl rfl))
    cases houtcome : act.outcome? with
    | none =>
      rw [Act.event?, houtcome] at path'
      exact ⟨between, hbetween, path'⟩
    | some o =>
      rw [Act.event?, houtcome] at path'
      obtain ⟨line', hline', put⟩ := exists_put r'' (.outcome o) between
      have path'' := path'.trans put
      rw [List.append_nil] at path''
      exact ⟨line', hbetween.trans hline', path''⟩

/-- A batch that is over comes to its end. -/
theorem exists_ended_of_isOver {r : Run σ} (complete : r.isOver = true) (line : Line) :
    ∃ line', Drains line line' ∧
      Path ⟨.going r none, line⟩ [] ⟨.ended (.done r.tally.finalize) r.world, line'⟩ := by
  obtain ⟨line', hline', put⟩ := exists_put r (.finished r.tally.finalize) line
  exact ⟨line', hline', .head (.conclude complete) put⟩

/-- From wherever it stands, a batch that is followed comes to its end if events are taken out. -/
theorem exists_ended_of_path {concurrency : Nat} {request : Request} {world : World σ}
    (inRange : world.clock.InRange request.count) {line : Line} (fresh : line.Carries [])
    {acts : List Act} {b : Broadcast σ} (path : Path (spawn concurrency request world line) acts b) :
    ∃ acts' verdict left line', .cancel ∉ acts' ∧ Drains b.line line' ∧
      Path b acts' ⟨.ended verdict left, line'⟩ := by
  cases accepted : start concurrency request world with
  | error cause =>
    rw [spawn, accepted] at path
    obtain ⟨stage, line⟩ := b
    obtain ⟨-, hstage, -⟩ := eq_of_ended path
    obtain ⟨line', hline', drained⟩ := exists_drained stage line
    have hended : stage = .ended (.refused cause) world := hstage
    rw [hended] at drained ⊢
    exact ⟨[], _, _, line', List.not_mem_nil, hline', drained⟩
  | ok run =>
    -- A batch with nothing in hand goes on until it is over.
    have hfree : ∀ {r acts line}, Run.Schedule run acts r → ∃ acts' verdict left line',
        .cancel ∉ acts' ∧ Drains line line' ∧
          Path ⟨.going r none, line⟩ acts' ⟨.ended verdict left, line'⟩ := by
      intro r acts line schedule
      obtain ⟨acts', last, inside, -, schedule', complete, -⟩ :=
        exists_complete_of_schedule inRange accepted schedule
      obtain ⟨between, hbetween, path⟩ := exists_path_of_schedule schedule' line
      obtain ⟨line', hline', path'⟩ := exists_ended_of_isOver complete between
      have path'' := path.trans path'
      rw [List.append_nil] at path''
      exact ⟨acts', _, _, line', inside, hbetween.trans hline', path''⟩
    obtain ⟨es, stands, -⟩ := at_of_path inRange accepted fresh path
    obtain ⟨stage, line⟩ := b
    cases stands with
    | free schedule => exact hfree schedule
    | @holding r e _ schedule events_eq inside =>
      obtain ⟨between, hbetween, put⟩ := exists_put r e line
      rw [Stage.after_of_inside r inside] at put
      obtain ⟨acts', verdict, left, line', hacts, hline', path'⟩ := hfree schedule
      exact ⟨acts', verdict, left, line', hacts, hbetween.trans hline', put.trans path'⟩
    | @closing r schedule complete =>
      obtain ⟨line', hline', put⟩ := exists_put r (.finished r.tally.finalize) line
      exact ⟨[], _, _, line', List.not_mem_nil, hline', put⟩
    | @ended r schedule complete =>
      obtain ⟨line', hline', drained⟩ :=
        exists_drained (.ended (.done r.tally.finalize) r.world) line
      exact ⟨[], _, _, line', List.not_mem_nil, hline', drained⟩

end Broadcast

/-! ## The log of a batch -/

open Broadcast

/-- By these steps a batch comes to this end, whatever is taken out on the way. -/
def Broadcast.Ends (b : Broadcast σ) (acts : List Act) (verdict : Verdict) (left : World σ) : Prop :=
  ∃ line, Path b acts ⟨.ended verdict left, line⟩

/-- The events of a request that is followed are a log of it. -/
structure Faithful (concurrency : Nat) (request : Request) (world : World σ) : Prop where
  /-- At any moment the events received, in the channel and in hand are the start and the outcomes
  recorded so far; once the batch is over, the result may be in hand on top of them. -/
  logged : ∀ acts r hand queue received,
    Path (spawn concurrency request world .fresh) acts ⟨.going r hand, .connected queue received⟩ →
      r.tally = (Tally.start request.count).recordAll (finished acts) ∧
        (received ++ queue ++ hand.toList = progress request acts ∨
          r.isOver = true ∧ received ++ queue = progress request acts ∧
            hand = some (.finished r.tally.finalize))
  /-- When all events are received of a batch that has a result, they are its start, an outcome for
  each call as they were recorded, and the result, which is the tally of these outcomes. -/
  done : ∀ acts result left received,
    Path (spawn concurrency request world .fresh) acts
        ⟨.ended (.done result) left, .connected [] received⟩ →
      received = progress request acts ++ [.finished result] ∧
        (finished acts).Perm ((calls acts).map Call.outcome) ∧
        (finished acts).Perm result.outcomes ∧
        ((Tally.start request.count).recordAll (finished acts)).finalize = result ∧
        (concurrency ≤ 1 → (finished acts).Pairwise fun a b => a.index < b.index)
  /-- Nothing comes after the end. -/
  closed : ∀ verdict (left : World σ) received acts b,
    Path ⟨.ended verdict left, .connected [] received⟩ acts b →
      acts = [] ∧ b.stage = .ended verdict left ∧ b.line.events <+: received
  /-- Without a result, the request was refused, nothing was done and there are no events. -/
  refused : ∀ acts verdict left line,
    Path (spawn concurrency request world .fresh) acts ⟨.ended verdict left, line⟩ →
      (∀ result, verdict ≠ .done result) →
        acts = [] ∧ left = world ∧ line.events = [] ∧
          ∃ cause, start concurrency request world = .error cause ∧ verdict = .refused cause
  /-- What can come of a request at all can come of it when all events are received. -/
  drained : ∀ acts verdict left, (spawn concurrency request world .fresh).Ends acts verdict left →
    ∃ received, Path (spawn concurrency request world .fresh) acts
      ⟨.ended verdict left, .connected [] received⟩
  /-- It is what can come of it when nobody follows. -/
  unfollowed : ∀ acts verdict left,
    (spawn concurrency request world .fresh).Ends acts verdict left ↔
      (spawn concurrency request world .absent).Ends acts verdict left
  /-- Wherever the batch stands when somebody leaves, what can come of it is what it was before. -/
  dropped : ∀ (stage : Stage σ) queue received acts verdict left,
    Ends ⟨stage, .connected queue received⟩ acts verdict left ↔
      Ends ⟨stage, .dropped received⟩ acts verdict left
  /-- As long as events are taken out, the batch is never stuck and comes to an end. -/
  ends : ∀ acts b, Path (spawn concurrency request world .fresh) acts b →
    ∃ acts' verdict left line', .cancel ∉ acts' ∧ Drains b.line line' ∧
      Path b acts' ⟨.ended verdict left, line'⟩
  /-- A sink that answers at once shows one way, and its report lists the same events. -/
  reported : ∃ acts, .cancel ∉ acts ∧ Path (spawn concurrency request world .fresh) acts
    ⟨.ended (dispatch concurrency request world).1.verdict (dispatch concurrency request world).2,
      .connected [] (dispatch concurrency request world).1.events⟩

omit [Sink σ] in
/-- A new line carries nothing. -/
theorem Line.carries_fresh : Line.fresh.Carries [] :=
  rfl

/-- The end of a batch that has a result. -/
theorem Broadcast.done_of_path {concurrency : Nat} {request : Request} {world : World σ}
    (inRange : world.clock.InRange request.count) {acts : List Act} {result : BatchResult}
    {left : World σ} {received : List Event}
    (path : Path (spawn concurrency request world .fresh) acts
      ⟨.ended (.done result) left, .connected [] received⟩) :
    ∃ run last, start concurrency request world = .ok run ∧ Run.Schedule run acts last ∧
      last.isOver = true ∧ result = last.tally.finalize ∧
      received = progress request acts ++ [.finished result] := by
  cases accepted : start concurrency request world with
  | error cause =>
    rw [spawn, accepted] at path
    obtain ⟨-, hstage, -⟩ := eq_of_ended path
    cases hstage
  | ok run =>
    obtain ⟨es, stands, carries⟩ := at_of_path inRange accepted Line.carries_fresh path
    cases stands with
    | @ended r schedule complete =>
      have hreceived : received ++ [] = r.events.reverse ++ [.finished r.tally.finalize] := carries
      rw [List.append_nil, schedule.events_eq_progress accepted] at hreceived
      exact ⟨run, r, rfl, schedule, complete, rfl, hreceived⟩

/-- The ways in which a request ends whose events are received: with a result if it has no faults, and
else at once and without a trace. -/
theorem Broadcast.ended_of_path {concurrency : Nat} {request : Request} {world left : World σ}
    (inRange : world.clock.InRange request.count) {acts : List Act} {verdict : Verdict} {line : Line}
    (path : Path (spawn concurrency request world .fresh) acts ⟨.ended verdict left, line⟩) :
    (∃ result, verdict = .done result) ∧ request.faults = [] ∨
      ∃ e, verdict = .refused e ∧ request.faults.head? = some e ∧ acts = [] ∧ left = world ∧
        line.events = [] := by
  cases accepted : start concurrency request world with
  | error e =>
    rw [spawn, accepted] at path
    obtain ⟨hacts, hended, hline⟩ := eq_of_ended path
    cases hended
    have hevents := (hline [] Line.carries_fresh).prefix_events
    exact Or.inr ⟨e, rfl, start_eq_error_iff.mp accepted, hacts, rfl, List.prefix_nil.mp hevents⟩
  | ok run =>
    obtain ⟨es, stands, -⟩ := at_of_path inRange accepted Line.carries_fresh path
    cases stands with
    | ended schedule complete => exact Or.inl ⟨⟨_, rfl⟩, faults_eq_nil_of_start accepted⟩

/-- What is in hand while a batch is under way comes after the events that were put in. -/
theorem Broadcast.logged_of_path {concurrency : Nat} {request : Request} {world : World σ}
    (inRange : world.clock.InRange request.count) {acts : List Act} {r : Run σ}
    {hand : Option Event} {queue received : List Event}
    (path : Path (spawn concurrency request world .fresh) acts
      ⟨.going r hand, .connected queue received⟩) :
    r.tally = (Tally.start request.count).recordAll (finished acts) ∧
      (received ++ queue ++ hand.toList = progress request acts ∨
        r.isOver = true ∧ received ++ queue = progress request acts ∧
          hand = some (.finished r.tally.finalize)) := by
  cases accepted : start concurrency request world with
  | error cause =>
    rw [spawn, accepted] at path
    obtain ⟨-, hended, -⟩ := eq_of_ended path
    cases hended
  | ok run =>
    -- The clock goes on, so that the batch was not halted and stands somewhere on a schedule.
    obtain ⟨es, stands, carries⟩ := at_of_path inRange accepted Line.carries_fresh path
    have hreceived : received ++ queue = es := carries
    rw [hreceived]
    cases stands with
    | free schedule =>
      refine ⟨(Run.follows_of_schedule accepted schedule).tally_eq, Or.inl ?_⟩
      rw [schedule.events_eq_progress accepted]
      exact List.append_nil _
    | holding schedule events_eq inside =>
      refine ⟨(Run.follows_of_schedule accepted schedule).tally_eq, Or.inl ?_⟩
      rw [← schedule.events_eq_progress accepted, events_eq]
      rfl
    | closing schedule complete =>
      refine ⟨(Run.follows_of_schedule accepted schedule).tally_eq, Or.inr ⟨complete, ?_, rfl⟩⟩
      exact schedule.events_eq_progress accepted

omit [Sink σ] in
/-- How a request begins does not hang on the line. -/
theorem spawn_eq (concurrency : Nat) (request : Request) (world : World σ) (line line' : Line) :
    spawn concurrency request world line =
      ⟨(spawn concurrency request world line').stage, line⟩ := by
  rw [spawn, spawn]
  cases start concurrency request world <;> rfl

/-- Nor does what can come of a batch, wherever it stands. -/
theorem Broadcast.ends_iff_of_line (stage : Stage σ) (line line' : Line) (acts : List Act)
    (verdict : Verdict) (left : World σ) :
    Ends ⟨stage, line⟩ acts verdict left ↔ Ends ⟨stage, line'⟩ acts verdict left := by
  constructor
  · rintro ⟨last, path⟩
    obtain ⟨last', -, path'⟩ := exists_path_of_line path line'
    exact ⟨last', path'⟩
  · rintro ⟨last, path⟩
    obtain ⟨last', -, path'⟩ := exists_path_of_line path line
    exact ⟨last', path'⟩

/-- The way on which the sink answers at once, with all events received. -/
theorem Broadcast.exists_path_of_dispatch (concurrency : Nat) {request : Request} {world : World σ}
    (inRange : world.clock.InRange request.count) :
    ∃ acts, .cancel ∉ acts ∧ Path (spawn concurrency request world .fresh) acts
      ⟨.ended (dispatch concurrency request world).1.verdict (dispatch concurrency request world).2,
        .connected [] (dispatch concurrency request world).1.events⟩ := by
  cases accepted : start concurrency request world with
  | error cause =>
    rw [dispatch_of_refused accepted, spawn, accepted]
    exact ⟨[], List.not_mem_nil, .refl⟩
  | ok run =>
    obtain ⟨acts, last, inside, -, schedule, complete, hend⟩ :=
      exists_complete_of_start inRange accepted
    rw [dispatch_of_complete accepted hend]
    have hevents : (Run.Ending.complete last).report.1.events =
        progress request acts ++ [.finished last.tally.finalize] := by
      rw [← schedule.events_eq_progress accepted]
      exact List.reverse_cons
    obtain ⟨started, hstarted, put⟩ := exists_put run (.started request.count) .fresh
    obtain ⟨between, hbetween, path⟩ := exists_path_of_schedule schedule started
    obtain ⟨line, hline, path'⟩ := exists_ended_of_isOver complete between
    have whole := put.trans (path.trans path')
    rw [List.append_nil, List.nil_append] at whole
    have hspawn : spawn concurrency request world .fresh =
        ⟨.going run (some (.started request.count)), .fresh⟩ := by
      rw [spawn, accepted]
    rw [← hspawn] at whole
    -- The events at the end of this way can only be those of the report.
    cases hstarted.trans (hbetween.trans hline) with
    | @connected _ _ received =>
      obtain ⟨_, _, _, _, _, _, hreceived⟩ := done_of_path inRange whole
      refine ⟨acts, inside, ?_⟩
      rw [hevents, ← hreceived]
      exact whole

/-- As long as the clock goes on, the events of a request are a faithful log of what becomes of it,
at any concurrency, in whatever order the sends end and whenever it is cancelled; and whether they
are received makes no difference to it. -/
theorem faithful_of_inRange (concurrency : Nat) (request : Request) (world : World σ)
    (inRange : world.clock.InRange request.count) : Faithful concurrency request world := by
  constructor
  case logged =>
    intro acts r hand queue received path
    exact logged_of_path inRange path
  case done =>
    intro acts result left received path
    obtain ⟨run, last, accepted, schedule, complete, rfl, hreceived⟩ := done_of_path inRange path
    have follows := Run.follows_of_schedule accepted schedule
    obtain ⟨template, -, rfl⟩ := Run.eq_begin_of_start accepted
    have landed := Run.inFlight_of_isOver complete
    have hperm := (follows.perm_outcomes landed).trans (follows.perm_finished landed)
    refine ⟨hreceived, (follows.perm_finished landed).symm, hperm.symm, ?_, ?_⟩
    · rw [follows.tally_eq]
    · -- One at a time, the sends end in the order in which they were started.
      intro hnarrow
      have horder := schedule.finished_of_narrow (Nat.max_eq_left hnarrow) rfl rfl
      rw [landed, List.append_nil] at horder
      rw [horder, List.pairwise_map]
      simpa only [Call.index_outcome] using follows.index_lt
  case closed =>
    intro verdict left received acts b path
    obtain ⟨hacts, hended, hline⟩ := eq_of_ended path
    exact ⟨hacts, hended, (hline received (List.append_nil received)).prefix_events⟩
  case refused =>
    intro acts verdict left line path hnone
    obtain ⟨⟨result, hdone⟩, -⟩ | ⟨cause, hrefused, hfault, huntouched⟩ :=
      ended_of_path inRange path
    · exact absurd hdone (hnone result)
    · obtain ⟨hacts, hleft, hevents⟩ := huntouched
      exact ⟨hacts, hleft, hevents, cause, start_eq_error_iff.mpr hfault, hrefused⟩
  case drained =>
    rintro acts verdict left ⟨line, path⟩
    obtain ⟨line', hline', path'⟩ := exists_path_of_line path .fresh
    rw [← spawn_eq] at path'
    cases hline'
    exact ⟨_, path'⟩
  case unfollowed =>
    intro acts verdict left
    have hends := ends_iff_of_line (spawn concurrency request world .fresh).stage .fresh .absent acts
      verdict left
    rwa [← spawn_eq, ← spawn_eq] at hends
  case dropped =>
    intro stage queue received acts verdict left
    exact ends_iff_of_line stage _ _ acts verdict left
  case ends =>
    intro acts b path
    exact exists_ended_of_path inRange Line.carries_fresh path
  case reported => exact exists_path_of_dispatch concurrency inRange

/-- Of three messages two are sent at a time, and the second is answered before the first. While its
outcome is in hand, the start is received and the batch is cancelled. -/
theorem faithful_of_interrupted :
    let request : Request := ⟨"server", "topic", {}, 3⟩
    let world : World Rehearsal := .rehearsal []
    world.clock.InRange request.count ∧
      (∃ acts result left, Path (spawn 2 request world .fresh) acts
          ⟨.ended (.done result) left, .connected []
            [.started 3, .outcome (.success 2), .outcome (.success 1), .finished result]⟩ ∧
        result.succeeded = 2 ∧ result.cancelled = 1) ∧
      Faithful 2 request world := by
  intro request world
  have inRange : world.clock.InRange request.count := fun k _ => ⟨_, rfl⟩
  have accepted : start 2 ⟨"server", "topic", {}, 3⟩ (.rehearsal []) =
      .ok (.begin ⟨"server", "topic", {}, 3⟩ ⟨none, none, []⟩ 2 (.rehearsal [])) := rfl
  have path : Path
      ⟨.going (.begin request ⟨none, none, []⟩ 2 world) (some (.started 3)), .fresh⟩ _ _ :=
    .head (.put rfl) <| .head (.act (.take rfl rfl rfl) (.inl rfl)) <|
    .head (.act (.take rfl rfl rfl) (.inl rfl)) <| .head (.act (.send _ _ rfl rfl) (.inl rfl)) <|
    .head (.act (.send _ _ rfl rfl) (.inl rfl)) <|
    .head (.act (.finish [_] _ [] rfl) (.inl rfl)) <| .head .receive <|
    .head (.act .cancel (.inr rfl)) <| .head (.put rfl) <|
    .head (.act (.finish [] _ [] rfl) (.inl rfl)) <| .head (.put rfl) <|
    .head (.conclude rfl) <| .head (.put rfl) <|
    .head .receive <| .head .receive <| .head .receive .refl
  have hspawn : spawn 2 request world .fresh =
      ⟨.going (.begin request ⟨none, none, []⟩ 2 world) (some (.started 3)), .fresh⟩ := by
    rw [spawn, accepted]
  rw [hspawn]
  exact ⟨inRange, ⟨_, _, _, path, rfl, rfl⟩, faithful_of_inRange 2 request world inRange⟩

end Courier.Batch
