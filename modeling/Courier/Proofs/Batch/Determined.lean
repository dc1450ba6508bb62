import Courier.Proofs.Batch.Broadcast

/-!
# What becomes of a request is determined

A request with faults is refused for the first of them, and then nothing was read, drawn, sent or
reported. One without faults has a result, however its sends overlap and whether or not anybody
receives its events.
-/

namespace Courier.Batch

open Broadcast Courier.Template

variable {σ : Type} [Sink σ]

/-- What becomes of a request is determined: it is refused for its first fault, without effect, or
carried out on any schedule, whether or not its events are received. -/
structure Determined (concurrency : Nat) (request : Request) (world : World σ) : Prop where
  /-- What there is to find fault with. -/
  faults_iff : request.faults ≠ [] ↔
    request.count = 0 ∨ Text.trim request.topic = "" ∨
      (∃ p ∈ request.template.texts, ∃ e, Field.parse p.2 = .error e) ∨
      ∃ p ∈ request.template.texts, ∃ f, Field.parse p.2 = .ok f ∧
        ∃ q ∈ f.placeholders, ∃ e, Directive.classify q.name q.format = .error e
  /-- It is refused for the first of its faults and for nothing else. -/
  refused_iff : ∀ e, (dispatch concurrency request world).1.verdict = .refused e ↔
    request.faults.head? = some e
  /-- When it is refused, nothing is sent, read, drawn or reported. -/
  untouched : ∀ e, (dispatch concurrency request world).1.verdict = .refused e →
    dispatch concurrency request world = (⟨.refused e, []⟩, world)
  /-- When it is not, it has a result. -/
  done : request.faults = [] →
    ∃ result, (dispatch concurrency request world).1.verdict = .done result
  /-- Nor can any other schedule begin with a faulty request. -/
  start_iff : ∀ e, start concurrency request world = .error e ↔ request.faults.head? = some e
  /-- No message fails to be made on any schedule. -/
  takes : ∀ run acts last, start concurrency request world = .ok run → Run.Schedule run acts last →
    last.canTake = true → ∃ next, last.take = .running next
  /-- No schedule is stuck before the batch is over. -/
  goes_on : ∀ run acts last, start concurrency request world = .ok run →
    Run.Schedule run acts last → last.isOver = false →
      ∃ act next, act ≠ .cancel ∧ Run.Step last act next
  /-- A request whose events are received is refused for the same fault. -/
  spawn_refused_iff : ∀ e,
    (∃ acts left, (spawn concurrency request world .fresh).Ends acts (.refused e) left) ↔
      request.faults.head? = some e
  /-- Then it takes no step, leaves the world as it was and has no events. -/
  spawn_untouched : ∀ e acts left line,
    Path (spawn concurrency request world .fresh) acts ⟨.ended (.refused e) left, line⟩ →
      acts = [] ∧ left = world ∧ line.events = []
  /-- Without a fault it has a result, in whatever way it ends. -/
  spawn_done : request.faults = [] → ∀ acts verdict left,
    (spawn concurrency request world .fresh).Ends acts verdict left →
      ∃ result, verdict = .done result
  /-- And it comes to an end from wherever it stands. -/
  spawn_ends : ∀ acts b, Path (spawn concurrency request world .fresh) acts b →
    ∃ acts' verdict left line, .cancel ∉ acts' ∧ Path b acts' ⟨.ended verdict left, line⟩

/-- As long as the clock goes on, a request is refused before it has any effect or not at all. -/
theorem determined_of_inRange (concurrency : Nat) (request : Request) (world : World σ)
    (inRange : world.clock.InRange request.count) : Determined concurrency request world := by
  have hstart : ∀ e, start concurrency request world = .error e →
      dispatch concurrency request world = (⟨.refused e, []⟩, world) := by
    intro e h
    rw [dispatch, h]
  -- Once it has started, a batch comes to a result, so that every refusal is one of the start.
  have hrefused : ∀ e, (dispatch concurrency request world).1.verdict = .refused e →
      start concurrency request world = .error e := by
    intro e h
    cases accepted : start concurrency request world with
    | error e' =>
      rw [hstart e' accepted] at h
      cases h
      rfl
    | ok run =>
      obtain ⟨result, hdone⟩ := exists_done_of_start inRange accepted
      rw [hdone] at h
      cases h
  constructor
  case faults_iff => exact request.faults_ne_nil_iff
  case refused_iff =>
    intro e
    constructor
    · intro h
      exact start_eq_error_iff.mp (hrefused e h)
    · intro h
      have accepted : start concurrency request world = .error e := start_eq_error_iff.mpr h
      rw [hstart e accepted]
  case untouched =>
    intro e h
    exact hstart e (hrefused e h)
  case done =>
    intro hnone
    cases accepted : start concurrency request world with
    | error e =>
      rw [start_eq_error_iff, hnone] at accepted
      cases accepted
    | ok run => exact exists_done_of_start inRange accepted
  case start_iff => exact fun e => start_eq_error_iff
  case takes =>
    intro run acts last accepted path room
    exact Run.take_of_schedule inRange accepted path room
  case goes_on =>
    intro run acts last accepted path running
    exact Run.step_of_not_isOver (Run.take_of_schedule inRange accepted path) running
  -- A broadcast has one end or the other on any path, and that decides each of its cases.
  case spawn_refused_iff =>
    intro e
    constructor
    · rintro ⟨acts, left, line, path⟩
      obtain ⟨⟨result, hdone⟩, -⟩ | ⟨e', hrefused, hfault, -⟩ := ended_of_path inRange path
      · cases hdone
      · cases hrefused
        exact hfault
    · intro hfault
      refine ⟨[], world, .fresh, ?_⟩
      rw [spawn, start_eq_error_iff.mpr hfault]
      exact .refl
  case spawn_untouched =>
    intro e acts left line path
    obtain ⟨⟨result, hdone⟩, -⟩ | ⟨e', -, -, huntouched⟩ := ended_of_path inRange path
    · cases hdone
    · exact huntouched
  case spawn_done =>
    rintro hnone acts verdict left ⟨line, path⟩
    obtain ⟨hdone, -⟩ | ⟨e, -, hfault, -⟩ := ended_of_path inRange path
    · exact hdone
    · rw [hnone] at hfault
      cases hfault
  case spawn_ends =>
    intro acts b path
    obtain ⟨acts', verdict, left, line, inside, -, path'⟩ :=
      exists_ended_of_path inRange Line.carries_fresh path
    exact ⟨acts', verdict, left, line, inside, path'⟩

/-- A header that cannot be split weighs more than a key with a format that is wrong. -/
theorem determined_of_misspelled :
    let request : Request :=
      ⟨"server", "topic", ⟨some "\x7bcount:\x7d", none, [⟨"plain", "\x7bnope\x7d"⟩]⟩, 2⟩
    (World.rehearsal []).clock.InRange request.count ∧
      request.faults =
        [.template (.parse (.headerValue 0) (.unknownName "nope" 0)),
          .template (.format .key (.invalid .count "" .empty))] ∧
      Determined 3 request (.rehearsal []) := by
  intro request
  have inRange : (World.rehearsal []).clock.InRange request.count := fun k _ => ⟨_, rfl⟩
  exact ⟨inRange, by decide +kernel, determined_of_inRange 3 request (.rehearsal []) inRange⟩

end Courier.Batch
