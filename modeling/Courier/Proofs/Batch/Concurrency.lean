import Courier.Batch.Series
import Courier.Proofs.Batch.Prefix

/-!
# Concurrency does not change what is sent

A batch of any concurrency and on any schedule goes abreast of one that carries out its iterations
one at a time: whenever the one starts an iteration, the other takes, starts and finishes it. What
the first has taken ahead by then is what the second is going to take next, so that both make the
same messages; and once they are cancelled, neither starts another one.
-/

namespace Courier.Batch

open Template

variable {σ : Type}

/-! ## Iterations taken ahead -/

/-- When `taken` iterations are taken, and with this clock and supply, these are the next ones with
their messages. Making them leaves the clock and the supply at the end. -/
inductive Makes (template : CompiledTemplate) :
    Nat → Time.Clock → UuidSupply → List (Nat × Message) → Time.Clock → UuidSupply → Prop where
  | nil (taken : Nat) (clock : Time.Clock) (supply : UuidSupply) :
    Makes template taken clock supply [] clock supply
  | cons {taken : Nat} {clock clock' : Time.Clock} {supply supply' : UuidSupply}
    {instant : Time.Instant} {message : Message} {desk : Desk} {items : List (Nat × Message)}
    (reading : clock.reading clock.reads = some instant)
    (made : template.materializeIn (.make (taken + 1) instant false) supply = (.ok message, desk))
    (later : Makes template (taken + 1) clock.read.2 desk.supply items clock' supply') :
    Makes template taken clock supply ((taken + 1, message) :: items) clock' supply'

/-- No iteration, no change. -/
theorem Makes.eq_of_nil {template : CompiledTemplate} {taken : Nat} {clock clock' : Time.Clock}
    {supply supply' : UuidSupply} (h : Makes template taken clock supply [] clock' supply') :
    clock = clock' ∧ supply = supply' := by
  cases h
  exact ⟨rfl, rfl⟩

/-- One more message is made from the next reading and the identifiers that are left. -/
theorem Makes.concat {template : CompiledTemplate} {taken : Nat} {clock clock' : Time.Clock}
    {supply supply' : UuidSupply} {items : List (Nat × Message)}
    (h : Makes template taken clock supply items clock' supply') {instant : Time.Instant}
    {message : Message} {desk : Desk} (reading : clock'.reading clock'.reads = some instant)
    (made : template.materializeIn (.make (taken + items.length + 1) instant false) supply' =
      (.ok message, desk)) :
    Makes template taken clock supply (items ++ [(taken + items.length + 1, message)])
      clock'.read.2 desk.supply := by
  induction h with
  | nil taken clock supply => exact .cons reading made (.nil _ _ _)
  | @cons taken _ _ _ _ _ _ _ items reading' made' _ ih =>
    have hindex : taken + (items.length + 1) + 1 = taken + 1 + items.length + 1 := by omega
    rw [List.length_cons, hindex] at made
    rw [List.length_cons, hindex]
    exact .cons reading' made' (ih reading made)

namespace Run

variable [Sink σ]

/-! ## One iteration at a time -/

/-- The batch after one more iteration with this message was carried out alone. -/
def carryOut (s : Run σ) (message : Message) (supply : UuidSupply) : Run σ :=
  let call := s.call (s.taken + 1, message)
  let receipt := Sink.send s.world.sink call.delivery
  { s with
    taken := s.taken + 1
    tally := s.tally.record call.outcome
    events := .outcome call.outcome :: s.events
    world :=
      { clock := s.world.clock.read.2, supply
        sink := receipt.sink, cancelled := receipt.cancels } }

omit [Sink σ] in
/-- A message that can be made waits behind the others. -/
theorem take_of_made {s : Run σ} {instant : Time.Instant} {message : Message} {desk : Desk}
    (reading : s.world.clock.reading s.world.clock.reads = some instant)
    (made : s.template.materializeIn (.make (s.taken + 1) instant false) s.world.supply =
      (.ok message, desk)) :
    s.take = .running { s with
      taken := s.taken + 1
      waiting := s.waiting ++ [(s.taken + 1, message)]
      world := { s.world with clock := s.world.clock.read.2, supply := desk.supply } } := by
  have hreading : s.world.clock.read.1 = some instant := reading
  simp only [take, hreading, made]

omit [Sink σ] in
/-- A reading out of range halts the batch and is used up. -/
theorem take_of_failing {s : Run σ}
    (failing : s.world.clock.reading s.world.clock.reads = none) :
    s.take = .halted .clockOutOfRange { s.world with clock := s.world.clock.read.2 } := by
  have hreading : s.world.clock.read.1 = none := failing
  simp only [take, hreading]

/-- A batch that is run to its end passes through `t`, and has made these calls by then. -/
structure Passes (s : Run σ) (cs : List Call) (t : Run σ) : Prop where
  path : ∃ acts, Schedule s acts t ∧ calls acts = cs
  toEnd_eq : s.toEnd = t.toEnd
  callsToEnd_eq : s.callsToEnd = cs ++ t.callsToEnd

/-- No calls lead from a batch to itself. -/
theorem Passes.refl (s : Run σ) : Passes s [] s :=
  ⟨⟨[], .refl, rfl⟩, rfl, rfl⟩

/-- Calls go on from where other calls led to. -/
theorem Passes.trans {a b c : Run σ} {cs cs' : List Call} (ab : Passes a cs b)
    (bc : Passes b cs' c) : Passes a (cs ++ cs') c := by
  obtain ⟨⟨acts, path, hcalls⟩, hend, hcallsToEnd⟩ := ab
  obtain ⟨⟨acts', path', hcalls'⟩, hend', hcallsToEnd'⟩ := bc
  refine ⟨⟨acts ++ acts', path.trans path', ?_⟩, hend.trans hend', ?_⟩
  · rw [calls_append, hcalls, hcalls']
  · rw [hcallsToEnd, hcallsToEnd', List.append_assoc]

/-- One step of the way to the end makes the next call, or none. -/
theorem passes_of_advance {r r' : Run σ} (h : r.advance = .running r') :
    Passes r r.nextCall?.toList r' := by
  obtain ⟨act, -, hcall, next⟩ := step_advance h
  refine ⟨⟨[act], .step .refl next, ?_⟩, toEnd_of_running h, callsToEnd_of_running h⟩
  rw [calls_cons, hcall]
  exact List.append_nil _

/-- With room for one, an iteration is taken, started and finished before the next is taken. -/
theorem passes_carryOut {s : Run σ} (window : s.window = 1) (waiting : s.waiting = [])
    (landed : s.inFlight = []) (live : s.world.cancelled = false)
    (room : s.taken < s.request.count) {instant : Time.Instant} {message : Message} {desk : Desk}
    (reading : s.world.clock.reading s.world.clock.reads = some instant)
    (made : s.template.materializeIn (.make (s.taken + 1) instant false) s.world.supply =
      (.ok message, desk)) :
    Passes s [s.call (s.taken + 1, message)] (s.carryOut message desk.supply) := by
  obtain ⟨request, template, _, taken, _, _, tally, events, world⟩ := s
  dsimp only at window waiting landed live room reading made
  subst window waiting landed
  let s : Run σ := ⟨request, template, 1, taken, [], [], tally, events, world⟩
  let first : Nat × Message := (taken + 1, message)
  -- The batch with the iteration taken, and with its send in flight.
  let waits : Run σ :=
    { s with
      taken := taken + 1
      waiting := [first]
      world := { world with clock := world.clock.read.2, supply := desk.supply } }
  let flies : Run σ :=
    { s.carryOut message desk.supply with tally, events, inFlight := [(s.call first).outcome] }
  have hroom : s.canTake = true := canTake_iff.mpr ⟨live, room, Nat.zero_lt_one⟩
  have hfull : waits.canTake = false := by
    rw [Bool.eq_false_iff, ne_eq, canTake_iff]
    exact fun h => Nat.lt_irrefl 1 h.2.2
  have htake : s.take = .running waits := take_of_made reading made
  have hstart : waits.start first [] = flies := start_of_live live first []
  have hadvance : s.advance = .running waits := (advance_of_room rfl hroom).trans htake
  have hadvance' : waits.advance = .running flies :=
    hstart ▸ advance_of_waiting rfl hfull rfl
  have hadvance'' : flies.advance = .running (s.carryOut message desk.supply) :=
    advance_of_inFlight rfl
  have hsend : waits.nextCall? = some (s.call first) := by
    have hlive : waits.world.cancelled = false := live
    have hnext : waits.nextCall? =
        if waits.canTake || waits.world.cancelled then none else some (waits.call first) := rfl
    rw [hnext, hfull, hlive]
    rfl
  have passes := passes_of_advance hadvance'
  rw [hsend] at passes
  exact ((passes_of_advance hadvance).trans passes).trans (passes_of_advance hadvance'')

end Run

/-! ## Going abreast -/

/-- Worlds that no batch can tell apart: when they are cancelled, only their sinks count. -/
structure World.Alike (w w' : World σ) : Prop where
  sink_eq : w'.sink = w.sink
  cancelled_eq : w'.cancelled = w.cancelled
  live_eq : w.cancelled = false → w'.clock = w.clock ∧ w'.supply = w.supply

/-- A world is like itself. -/
theorem World.Alike.refl (w : World σ) : w.Alike w :=
  ⟨rfl, rfl, fun _ => ⟨rfl, rfl⟩⟩

namespace Run

/-- `s` has carried out one at a time the iterations that `r` has started by these steps. -/
structure Abreast (acts : List Act) (r s : Run σ) : Prop where
  request_eq : s.request = r.request
  template_eq : s.template = r.template
  window_eq : s.window = 1
  waiting_eq : s.waiting = []
  inFlight_eq : s.inFlight = []
  taken_eq : s.taken = (calls acts).length
  sink_eq : s.world.sink = r.world.sink
  cancelled_eq : s.world.cancelled = r.world.cancelled
  /-- The iterations that `r` has taken ahead are those that `s` is going to take. -/
  ahead : r.world.cancelled = false →
    Makes r.template s.taken s.world.clock s.world.supply r.waiting r.world.clock r.world.supply

/-- Two batches start abreast when their worlds are alike, whatever their windows. -/
theorem abreast_begin (request : Request) (template : CompiledTemplate) (window : Nat)
    {world world' : World σ} (alike : world.Alike world') :
    Abreast [] (.begin request template window world) (.begin request template 1 world') where
  request_eq := rfl
  template_eq := rfl
  window_eq := rfl
  waiting_eq := rfl
  inFlight_eq := rfl
  taken_eq := rfl
  sink_eq := alike.sink_eq
  cancelled_eq := alike.cancelled_eq
  ahead := by
    intro live
    obtain ⟨hclock, hsupply⟩ := alike.live_eq live
    show Makes template 0 world'.clock world'.supply [] world.clock world.supply
    rw [hclock, hsupply]
    exact .nil _ _ _

variable [Sink σ]

/-- A step of the one is followed by an iteration of the other if it starts one, and by nothing
otherwise. -/
theorem Abreast.step {request : Request} {before r r' s : Run σ} {acts : List Act} {act : Act}
    (h : Abreast acts r s) (follows : Follows request acts r) (path : Schedule before acts r)
    (next : Step r act r') (inside : act ≠ .cancel) :
    ∃ s', Passes s act.call?.toList s' ∧ Abreast (acts ++ [act]) r' s' := by
  obtain ⟨request_eq, template_eq, window_eq, waiting_eq, inFlight_eq, taken_eq, sink_eq,
    cancelled_eq, ahead⟩ := h
  have hquiet : act.call? = none → s.taken = (calls (acts ++ [act])).length := by
    intro quiet
    rw [taken_eq, calls_concat, quiet, Option.toList_none, List.append_nil]
  cases next with
  | @take _ message room made waits =>
    obtain ⟨instant, message', desk, reading, hmade, rfl⟩ := take_eq_running made
    obtain ⟨live, -, -⟩ := canTake_iff.mp room
    have htaken : r.taken = s.taken + r.waiting.length := by
      rw [taken_eq]
      exact follows.taken_eq path live
    refine ⟨s, .refl s, request_eq, template_eq, window_eq, waiting_eq, inFlight_eq, hquiet rfl,
      sink_eq, cancelled_eq, ?_⟩
    -- The other stays where it is, and what it is going to take grows at the end.
    intro _
    dsimp only
    rw [htaken] at hmade ⊢
    exact (ahead live).concat reading hmade
  | send first rest waits live =>
    -- What waits first for the one is what the other takes next, with the same reading and supply.
    have hmakes := ahead live
    rw [waits] at hmakes
    cases hmakes with
    | @cons _ _ _ _ _ instant message desk _ reading made later =>
      have hroom : s.taken < s.request.count := by
        have htaken := follows.taken_eq path live
        have hle := follows.taken_le
        rw [waits, List.length_cons, ← taken_eq] at htaken
        rw [request_eq, follows.request_eq]
        omega
      have hlive : s.world.cancelled = false := cancelled_eq.trans live
      have hcall : s.call (s.taken + 1, message) = r.call (s.taken + 1, message) := by
        rw [call, call, request_eq, sink_eq]
      have passes := passes_carryOut window_eq waiting_eq inFlight_eq hlive hroom reading
        (template_eq ▸ made)
      rw [start_of_live live]
      refine ⟨s.carryOut message desk.supply, ?_, request_eq, template_eq, window_eq, waiting_eq,
        inFlight_eq, ?_, ?_, ?_, fun _ => later⟩
      · rw [← hcall]
        exact passes
      · rw [calls_concat, List.length_append, ← taken_eq]
        rfl
      · rw [carryOut, hcall, sink_eq]
      · rw [carryOut, hcall, sink_eq]
  | drop first rest waits cancelled =>
    rw [start_of_cancelled cancelled]
    refine ⟨s, .refl s, request_eq, template_eq, window_eq, waiting_eq, inFlight_eq, hquiet rfl,
      sink_eq, cancelled_eq, ?_⟩
    -- From here on the readings of the two differ, but no message is made of them.
    intro live
    rw [cancelled] at live
    cases live
  | finish front o back flies =>
    exact ⟨s, .refl s, request_eq, template_eq, window_eq, waiting_eq, inFlight_eq, hquiet rfl,
      sink_eq, cancelled_eq, ahead⟩
  | cancel => exact absurd rfl inside

/-- So the two go abreast on any schedule that is not cancelled from outside. -/
theorem exists_abreast_of_schedule {request : Request} {r r' s : Run σ} {acts : List Act}
    (h : Abreast [] r s) (follows : Follows request [] r) (path : Schedule r acts r')
    (inside : .cancel ∉ acts) : ∃ t, Passes s (calls acts) t ∧ Abreast acts r' t := by
  induction path with
  | refl => exact ⟨s, .refl s, h⟩
  | @step acts act r' r'' path next ih =>
    rw [List.mem_append, List.mem_singleton, not_or] at inside
    obtain ⟨t, hpasses, habreast⟩ := ih inside.1
    obtain ⟨t', hpasses', habreast'⟩ :=
      habreast.step (follows.schedule path) path next (Ne.symm inside.2)
    rw [calls_concat]
    exact ⟨t', hpasses.trans hpasses', habreast'⟩

/-- When the one is over, so is the other, and they leave worlds that are alike. -/
theorem Abreast.isOver {request : Request} {before r s : Run σ} {acts : List Act}
    (h : Abreast acts r s) (follows : Follows request acts r) (path : Schedule before acts r)
    (window : 0 < r.window) (ended : r.isOver = true) :
    s.isOver = true ∧ r.world.Alike s.world := by
  obtain ⟨-, hwaiting, -⟩ := isOver_iff.mp ended
  constructor
  · refine isOver_iff.mpr ⟨?_, h.waiting_eq, h.inFlight_eq⟩
    rw [Bool.eq_false_iff, ne_eq, canTake_iff, h.cancelled_eq, h.taken_eq, h.request_eq,
      follows.request_eq]
    rintro ⟨live, hlt, -⟩
    exact Nat.ne_of_lt hlt (follows.length_calls_of_live path window ended live)
  · refine ⟨h.sink_eq, h.cancelled_eq, ?_⟩
    intro live
    have hmakes := h.ahead live
    rw [hwaiting] at hmakes
    exact hmakes.eq_of_nil

/-- A request is carried out on any schedule as it is with a concurrency of one. -/
theorem same_of_start {concurrency : Nat} {request : Request} {world world' : World σ}
    {run last : Run σ} {acts : List Act} (alike : world.Alike world')
    (accepted : Batch.start concurrency request world = .ok run) (path : Schedule run acts last)
    (inside : .cancel ∉ acts) (ended : last.isOver = true) :
    calls acts = callsOf 1 request world' ∧
      (Ending.complete last).report.1.verdict = (dispatch 1 request world').1.verdict ∧
      last.world.Alike (dispatch 1 request world').2 := by
  obtain ⟨template, haccept, rfl⟩ := eq_begin_of_start accepted
  have hstart : Batch.start 1 request world' = .ok (.begin request template 1 world') :=
    start_of_accept haccept 1 world'
  have hbegin := follows_begin request template (max 1 concurrency) world
  -- The batch that sends one at a time has made the same calls when it stands abreast.
  obtain ⟨t, ⟨⟨acts', path', hcalls⟩, htoEnd, hcallsToEnd⟩, abreast⟩ :=
    exists_abreast_of_schedule (abreast_begin request template _ alike) hbegin path inside
  have follows := follows_of_schedule accepted path
  have follows' := follows_of_schedule hstart path'
  obtain ⟨hover, halike⟩ :=
    abreast.isOver follows path (window_pos_of_start accepted path) ended
  have hcomplete := advance_of_isOver hover
  have hdispatch : dispatch 1 request world' = (Ending.complete t).report :=
    dispatch_of_complete hstart (htoEnd.trans (toEnd_of_complete hcomplete))
  refine ⟨?_, ?_, ?_⟩
  · rw [callsOf_of_accepted hstart, hcallsToEnd, callsToEnd_of_complete hcomplete, List.append_nil]
  · have hsame : last.tally.finalize = t.tally.finalize := by
      rw [follows.finalize_eq (inFlight_of_isOver ended),
        follows'.finalize_eq (inFlight_of_isOver hover), hcalls]
    rw [hdispatch]
    exact congrArg Verdict.done hsame
  · rw [hdispatch]
    exact halike

end Run

/-! ## Requests in a row -/

variable [Sink σ]

omit [Sink σ] in
/-- Whether a request is refused hangs neither on the concurrency nor on the world. -/
theorem start_error_of_start_error {concurrency concurrency' : Nat} {request : Request}
    {world world' : World σ} {cause : DispatchError}
    (refusal : start concurrency request world = .error cause) :
    start concurrency' request world' = .error cause :=
  start_eq_error_iff.mpr (start_eq_error_iff.mp refusal)

/-- Worlds that are alike lead to the same calls and verdicts, one request after the other. -/
theorem Series.same {concurrency : Nat} {requests : List Request} {world world' left : World σ}
    {acts : List Act} {verdicts : List Verdict} (alike : world.Alike world')
    (series : Series concurrency world requests acts verdicts left) (inside : .cancel ∉ acts) :
    calls acts = callsAll 1 requests world' ∧
      verdicts = (dispatchAll 1 requests world').1.map (·.1.verdict) ∧
      left.Alike (dispatchAll 1 requests world').2 := by
  induction series generalizing world' with
  | nil world => exact ⟨rfl, rfl, alike⟩
  | @refused world left request rest cause acts verdicts refusal later ih =>
    have refusal' : start 1 request world' = .error cause := start_error_of_start_error refusal
    obtain ⟨ihcalls, ihverdicts, ihalike⟩ := ih alike inside
    rw [callsAll, dispatchAll, callsOf_of_refused refusal', dispatch_of_refused refusal', ihcalls,
      ihverdicts]
    exact ⟨rfl, rfl, ihalike⟩
  | @carried world left request rest run last acts acts' verdicts accepted path ended later ih =>
    rw [List.mem_append, not_or] at inside
    obtain ⟨hcalls, hverdict, halike⟩ := Run.same_of_start alike accepted path inside.1 ended
    obtain ⟨ihcalls, ihverdicts, ihalike⟩ := ih halike inside.2
    rw [calls_append, callsAll, dispatchAll, hcalls, ihcalls, hverdict, ihverdicts]
    exact ⟨rfl, rfl, ihalike⟩

/-- After a batch of `request` the clock goes on where it stopped. -/
theorem Run.inRange_of_schedule {request : Request} {world : World σ} {template : CompiledTemplate}
    {window n : Nat} {acts : List Act} {last : Run σ}
    (path : Run.Schedule (.begin request template window world) acts last)
    (inRange : world.clock.InRange (request.count + n)) : last.world.clock.InRange n := by
  have htaken := ((Run.follows_begin request template window world).schedule path).taken_le
  obtain ⟨-, -, -, reading_eq, reads_eq⟩ := Run.keeps_of_schedule path
  have hreads : last.world.clock.reads = world.clock.reads + last.taken := reads_eq
  intro k hk
  have hlt : last.taken + k < request.count + n := by omega
  obtain ⟨t, ht⟩ := inRange (last.taken + k) hlt
  rw [reading_eq, hreads, Nat.add_assoc]
  exact ⟨t, ht⟩

/-- As long as the clock goes on, requests are carried out at any concurrency: a sink that answers
at once shows one way. -/
theorem exists_series (concurrency : Nat) {requests : List Request} {world : World σ}
    (inRange : world.clock.InRange (messageCount requests)) :
    ∃ acts, .cancel ∉ acts ∧ calls acts = callsAll concurrency requests world ∧
      Series concurrency world requests acts
        ((dispatchAll concurrency requests world).1.map (·.1.verdict))
        (dispatchAll concurrency requests world).2 := by
  induction requests generalizing world with
  | nil => exact ⟨[], List.not_mem_nil, rfl, .nil world⟩
  | cons request rest ih =>
    rw [messageCount, List.foldr_cons] at inRange
    rw [dispatchAll, callsAll]
    cases accepted : start concurrency request world with
    | error cause =>
      obtain ⟨acts, inside, hcalls, later⟩ := ih (inRange.mono (Nat.le_add_left _ _))
      rw [dispatch_of_refused accepted, callsOf_of_refused accepted]
      exact ⟨acts, inside, hcalls, .refused accepted later⟩
    | ok run =>
      obtain ⟨acts, last, inside, hcalls, path, ended, hend⟩ :=
        exists_complete_of_start (inRange.mono (Nat.le_add_right _ _)) accepted
      have hdispatch := dispatch_of_complete accepted hend
      have hcallsOf := callsOf_of_accepted accepted
      obtain ⟨template, -, rfl⟩ := Run.eq_begin_of_start accepted
      -- The readings of this batch are used up; those of the later ones are still in range.
      obtain ⟨acts', inside', hcalls', later⟩ := ih (Run.inRange_of_schedule path inRange)
      rw [hdispatch, hcallsOf]
      refine ⟨acts ++ acts', ?_, ?_, .carried accepted path ended later⟩
      · rw [List.mem_append, not_or]
        exact ⟨inside, inside'⟩
      · rw [calls_append, hcalls, hcalls']
        rfl

/-- However many sends may be in flight and in whatever order they end, requests that are carried
out in order lead to the same calls of the sink, the same results and refusals, and the same sink
as when they are carried out one message at a time; and they can always be carried out as long as
the clock goes on, by the way of a sink that answers at once. -/
theorem same_at_any_concurrency (requests : List Request) (world : World σ) :
    (∀ concurrency acts verdicts left, .cancel ∉ acts →
        Series concurrency world requests acts verdicts left →
          calls acts = callsAll 1 requests world ∧
          verdicts = (dispatchAll 1 requests world).1.map (·.1.verdict) ∧
          left.sink = (dispatchAll 1 requests world).2.sink) ∧
      (world.clock.InRange (messageCount requests) → ∀ concurrency, ∃ acts,
        .cancel ∉ acts ∧ calls acts = callsAll concurrency requests world ∧
          Series concurrency world requests acts
            ((dispatchAll concurrency requests world).1.map (·.1.verdict))
            (dispatchAll concurrency requests world).2) := by
  constructor
  · intro concurrency acts verdicts left inside series
    obtain ⟨hcalls, hverdicts, halike⟩ := series.same (.refl world) inside
    exact ⟨hcalls, hverdicts, halike.sink_eq.symm⟩
  · intro inRange concurrency
    exact exists_series concurrency inRange

/-- Three messages are taken at once. The second is answered before the first, fails and cancels
everything, so that the third is dropped; a request to a blank topic is refused all the same, and
the last one is over at once. -/
theorem same_at_any_concurrency_of_overlap :
    let requests : List Request :=
      [⟨"server", "topic", {}, 4⟩, ⟨"server", " ", {}, 1⟩, ⟨"server", "other", {}, 3⟩]
    let world : World Rehearsal :=
      { World.rehearsal [] with sink := { failOn := [2], cancelOn := some 2 } }
    ∃ acts verdicts left, .cancel ∉ acts ∧ Series 3 world requests acts verdicts left ∧
      (finished acts).map Outcome.index = [2, 1] ∧ left.clock.reads = 3 ∧
      callsAll 3 requests world = callsAll 1 requests world ∧
      calls acts = callsAll 1 requests world ∧
      verdicts = (dispatchAll 1 requests world).1.map (·.1.verdict) ∧
      left.sink = (dispatchAll 1 requests world).2.sink := by
  intro requests world
  have path : Run.Schedule (.begin ⟨"server", "topic", {}, 4⟩ ⟨none, none, []⟩ 3 world) _ _ :=
    .head (.take rfl rfl rfl) <| .head (.take rfl rfl rfl) <| .head (.take rfl rfl rfl) <|
    .head (.send _ _ rfl rfl) <| .head (.send _ _ rfl rfl) <| .head (.drop _ _ rfl rfl) <|
    .head (.finish [_] _ [] rfl) <| .head (.finish [] _ [] rfl) .refl
  have series : Series 3 world requests _ _ _ :=
    .carried rfl path rfl (.refused rfl (.carried rfl .refl rfl (.nil _)))
  have inRange : world.clock.InRange (messageCount requests) := fun k _ => ⟨_, rfl⟩
  obtain ⟨same, exists_of_inRange⟩ := same_at_any_concurrency requests world
  refine ⟨_, _, _, ?inside, series, rfl, rfl, ?direct, same 3 _ _ _ (by simp) series⟩
  case inside => simp
  case direct =>
    obtain ⟨acts, inside, hcalls, series'⟩ := exists_of_inRange inRange 3
    exact hcalls.symm.trans (same 3 _ _ _ inside series').1

end Courier.Batch
