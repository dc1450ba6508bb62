import Courier.Proofs.Batch.Content

/-!
# Each message has an index and a reading of its own

Requests that are carried out in a row share one clock. While nothing is cancelled, an accepted one
takes one reading for each of its messages and a refused one takes none, however its sends overlap.
So the readings of a batch begin where those of the accepted requests before it end, and its
messages are made for the indices from 1 on and for these readings, one each.
-/

namespace Courier.Batch

open Template

variable {σ : Type}

/-! ## What requests ask for -/

/-- Counts of accepted requests add up along a series. -/
theorem acceptedCount_append (xs ys : List Request) :
    acceptedCount (xs ++ ys) = acceptedCount xs + acceptedCount ys := by
  have hfold : ∀ rs rs' : List Request,
      messageCount (rs ++ rs') = messageCount rs + messageCount rs' := by
    intro rs rs'
    induction rs with
    | nil => simp [messageCount]
    | cons r rs ih =>
      have hcons : ∀ l, messageCount (r :: l) = r.count + messageCount l := fun _ => rfl
      rw [List.cons_append, hcons, hcons, ih, Nat.add_assoc]
  rw [acceptedCount, List.filter_append, hfold]
  rfl

/-- An accepted request counts with all its messages. -/
theorem acceptedCount_of_accepted {request : Request} {template : CompiledTemplate}
    (accepted : request.accept = .ok template) (rest : List Request) :
    acceptedCount (request :: rest) = request.count + acceptedCount rest := by
  have hok : request.accept.isOk = true := by rw [accepted]; rfl
  rw [acceptedCount, acceptedCount, List.filter_cons, if_pos hok]
  rfl

/-- A refused request does not count. -/
theorem acceptedCount_of_refused {request : Request} {cause : DispatchError}
    (refusal : request.accept = .error cause) (rest : List Request) :
    acceptedCount (request :: rest) = acceptedCount rest := by
  have hok : ¬request.accept.isOk = true := by rw [refusal]; exact Bool.false_ne_true
  rw [acceptedCount, acceptedCount, List.filter_cons, if_neg hok]

/-- Starting a batch fails only where its request is refused, and with the same error. -/
theorem accept_of_start_error {concurrency : Nat} {request : Request} {world : World σ}
    {cause : DispatchError} (refusal : start concurrency request world = .error cause) :
    request.accept = .error cause := by
  cases haccept : request.accept with
  | error e =>
    rw [start, haccept] at refusal
    cases refusal
    rfl
  | ok template =>
    rw [start, haccept] at refusal
    cases refusal

variable [Sink σ]

/-! ## The clock between batches -/

/-- A batch that is over and was not cancelled has taken a reading for each of its messages. -/
theorem Run.clock_of_live {concurrency : Nat} {request : Request} {world : World σ}
    {run last : Run σ} {acts : List Act} (accepted : Batch.start concurrency request world = .ok run)
    (path : Run.Schedule run acts last) (ended : last.isOver = true)
    (live : last.world.cancelled = false) :
    (calls acts).length = request.count ∧ last.world.clock = world.clock.skip request.count := by
  have hcalls := Run.length_calls_of_start accepted path ended live
  have htaken := (Run.follows_of_schedule accepted path).taken_eq path live
  obtain ⟨template, -, rfl⟩ := Run.eq_begin_of_start accepted
  obtain ⟨-, hwaiting, -⟩ := Run.isOver_iff.mp ended
  have hlength : (made acts).length = request.count := by
    rw [hwaiting, List.length_nil, Nat.add_zero] at htaken
    rw [← Run.taken_eq_length path, htaken, hcalls]
  refine ⟨hcalls, ?_⟩
  rw [path.makes.1.skip.1, hlength]
  rfl

/-- A cancellation lasts beyond the request in which it came. -/
theorem Series.live {concurrency : Nat} {requests : List Request} {world left : World σ}
    {acts : List Act} {verdicts : List Verdict}
    (series : Series concurrency world requests acts verdicts left)
    (live : left.cancelled = false) : world.cancelled = false := by
  induction series with
  | nil world => exact live
  | refused _ _ ih => exact ih live
  | @carried world left request rest run last acts acts' verdicts accepted path _ _ ih =>
    obtain ⟨-, rfl⟩ := Run.follows_of_start accepted
    exact path.live (ih live)

/-- Each accepted request takes as many readings as it has messages, and a refused one none. -/
theorem Series.clock_of_live {concurrency : Nat} {requests : List Request} {world left : World σ}
    {acts : List Act} {verdicts : List Verdict}
    (series : Series concurrency world requests acts verdicts left)
    (live : left.cancelled = false) : left.clock = world.clock.skip (acceptedCount requests) := by
  induction series with
  | nil world => rfl
  | refused refusal _ ih =>
    rw [acceptedCount_of_refused (accept_of_start_error refusal)]
    exact ih live
  | @carried world left request rest run last acts acts' verdicts accepted path ended later ih =>
    have hlast : last.world.cancelled = false := later.live live
    obtain ⟨-, hclock⟩ := Run.clock_of_live accepted path ended hlast
    obtain ⟨template, haccept, -⟩ := Run.eq_begin_of_start accepted
    rw [ih live, hclock, Time.Clock.skip_skip, acceptedCount_of_accepted haccept]

/-! ## Numbered batches -/

/-- The calls of a batch that began as `run` are for its first iterations, each with the message for
an index and a reading of the clock of its own. -/
structure Run.Numbered (run : Run σ) (cs : List Call) : Prop where
  indices : cs.map Call.index = List.range' 1 cs.length
  le_count : cs.length ≤ run.request.count
  /-- The message is the template filled in for the index and for the reading that as many others
  came before in this batch as iterations. -/
  made : ∀ c ∈ cs, ∃ instant,
    run.world.clock.reading (run.world.clock.reads + (c.index - 1)) = some instant ∧
      (run.template.materializeIn (.make c.index instant false)
        (run.world.supply.skip ((c.index - 1) * run.template.draws))).1 = .ok c.delivery.message
  /-- A count is the index, plain or padded with zeros, so that at each place of the template the
  counts go up from 1 by one from message to message. -/
  counts : ∀ k p, run.template.segments[k]? = some (.placeholder p) → p.name = .count →
    ∃ texts, List.Forall₂ (fun c text => run.TextAt c k text ∧
        (text = String.ofList (Decimal.digits c.index) ∨
          ∃ width ≤ Directive.maxWidth, text = String.ofList (Decimal.padded width c.index)))
        cs texts ∧
      texts.map (fun text => Decimal.read? text.toList) = (List.range' 1 cs.length).map some
  /-- All timestamps in a message are the instant of its reading, as their formats ask. -/
  timestamps : ∀ c ∈ cs, ∃ instant,
    run.world.clock.reading (run.world.clock.reads + (c.index - 1)) = some instant ∧
      ∀ k p, run.template.segments[k]? = some (.placeholder p) → p.name = .timestamp →
        ∃ text, run.TextAt c k text ∧
          Directive.render .timestamp p.format (.timestamp instant) = .ok text

omit [Sink σ] in
/-- A count in a message tells its index. -/
theorem Run.TextAt.count {run : Run σ} {c : Call} {k : Nat} {text : String} {p : Placeholder}
    (h : run.TextAt c k text) (hp : run.template.segments[k]? = some (.placeholder p))
    (name : p.name = .count) :
    (text = String.ofList (Decimal.digits c.index) ∨
        ∃ width ≤ Directive.maxWidth, text = String.ofList (Decimal.padded width c.index)) ∧
      Decimal.read? text.toList = some c.index := by
  obtain ⟨instant, -, htext⟩ := h.text_eq hp
  exact Segment.text_count name htext

/-- Texts for calls in a row, one each. -/
theorem exists_texts {P : Call → String → Prop} {cs : List Call}
    (h : ∀ c ∈ cs, ∃ text, P c text ∧ Decimal.read? text.toList = some c.index) :
    ∃ texts, List.Forall₂ P cs texts ∧
      texts.map (fun text => Decimal.read? text.toList) = (cs.map Call.index).map some := by
  induction cs with
  | nil => exact ⟨[], .nil, rfl⟩
  | cons c cs ih =>
    obtain ⟨text, htext, hread⟩ := h c List.mem_cons_self
    obtain ⟨texts, htexts, hreads⟩ := ih fun c' hc' => h c' (List.mem_cons_of_mem c hc')
    refine ⟨text :: texts, .cons htext htexts, ?_⟩
    rw [List.map_cons, hread, hreads]
    rfl

/-- Whatever the schedule, what a batch has sent is numbered. -/
theorem Run.numbered_of_schedule {request : Request} {template : CompiledTemplate} {window : Nat}
    {world : World σ} {r : Run σ} {acts : List Act}
    (path : Run.Schedule (.begin request template window world) acts r) :
    (Run.begin request template window world).Numbered (calls acts) := by
  have follows : Run.Follows request acts r :=
    (Run.follows_begin request template window world).schedule path
  have hindices := follows.index_calls path
  constructor
  case indices => exact hindices
  case le_count => exact follows.length_calls_le
  case made =>
    intro c hc
    obtain ⟨instant, desk, hreading, hmade⟩ := Run.materializeIn_of_mem_calls path hc
    exact ⟨instant, hreading, congrArg Prod.fst hmade⟩
  case counts =>
    intro k p hp name
    rw [← hindices]
    apply exists_texts
    intro c hc
    obtain ⟨text, htext⟩ := Run.exists_textAt path hc hp
    obtain ⟨hform, hread⟩ := htext.count hp name
    exact ⟨text, ⟨htext, hform⟩, hread⟩
  case timestamps =>
    intro c hc
    obtain ⟨instant, -, hreading, -⟩ := Run.materializeIn_of_mem_calls path hc
    refine ⟨instant, hreading, ?_⟩
    intro k p hp name
    obtain ⟨text, htext⟩ := Run.exists_textAt path hc hp
    obtain ⟨instant', hreading', hspelt⟩ := htext.text_eq hp
    -- The clock gives one answer for each reading.
    have hsame : instant' = instant := by
      have hsome : some instant' = some instant := hreading'.symm.trans hreading
      exact Option.some.inj hsome
    subst hsame
    exact ⟨text, htext, Segment.text_timestamp name hspelt⟩

/-- Of requests that are carried out in a row at any concurrency, and as long as nothing is
cancelled, each that is accepted sends messages numbered from 1 on, the first of which is made for
the reading of the clock that follows those of the accepted requests before it. A refused request
takes no reading. While the clock goes on, the batch comes to its end, and has then sent all that
was asked for. -/
theorem numbered_of_series {concurrency : Nat} {before : List Request} {world left : World σ}
    {acts acts' : List Act} {verdicts : List Verdict} {request : Request} {run r : Run σ}
    (earlier : Series concurrency world before acts verdicts left)
    (accepted : start concurrency request left = .ok run) (path : Run.Schedule run acts' r)
    (live : r.world.cancelled = false)
    (inRange : world.clock.InRange (acceptedCount (before ++ [request]))) :
    run.world.clock = world.clock.skip (acceptedCount before) ∧
      run.request = request ∧ request.accept = .ok run.template ∧ run.Numbered (calls acts') ∧
      (r.isOver = true → (calls acts').length = request.count) ∧ run.Terminates := by
  obtain ⟨template, haccept, rfl⟩ := Run.eq_begin_of_start accepted
  have hlive : left.cancelled = false := path.live live
  have hclock := earlier.clock_of_live hlive
  have inRange' : left.clock.InRange request.count := by
    intro k hk
    have hone : acceptedCount [request] = request.count := acceptedCount_of_accepted haccept []
    -- The readings of this batch come after those of the accepted ones before it.
    have hlt : acceptedCount before + k < acceptedCount (before ++ [request]) := by
      rw [acceptedCount_append, hone]
      omega
    obtain ⟨instant, hinstant⟩ := inRange (acceptedCount before + k) hlt
    rw [hclock]
    refine ⟨instant, ?_⟩
    show world.clock.reading (world.clock.reads + acceptedCount before + k) = some instant
    rw [Nat.add_assoc]
    exact hinstant
  refine ⟨hclock, rfl, haccept, Run.numbered_of_schedule path, ?_,
    Run.terminates_of_start inRange' accepted⟩
  intro ended
  exact (Run.clock_of_live accepted path ended live).1

/-- The first batch is of two messages and the second request is refused. In the third batch the
second of two messages is answered before the first. -/
theorem numbered_of_overlap :
    let text := "\x7bcount:03d\x7d at \x7btimestamp:mm\x7d"
    let before : List Request := [⟨"server", "topic", {}, 2⟩, ⟨"server", " ", {}, 5⟩]
    let request : Request := ⟨"server", "topic", .ofValue text, 2⟩
    let midnight : Time.Instant := ⟨0, 0, by decide, by decide, by decide, by decide⟩
    let world : World Rehearsal :=
      { World.rehearsal [] with clock := .stepping midnight 60000 }
    ∃ acts verdicts left run acts' r, Series 2 world before acts verdicts left ∧
      start 2 request left = .ok run ∧ Run.Schedule run acts' r ∧
      r.isOver = true ∧ r.world.cancelled = false ∧
      (finished acts').map Outcome.index = [2, 1] ∧
      (calls acts').map (·.delivery.message.value) = [some "001 at 02", some "002 at 03"] ∧
      run.world.clock = world.clock.skip 2 ∧ run.request = request ∧
      request.accept = .ok run.template ∧ run.Numbered (calls acts') ∧
      (calls acts').length = 2 ∧ run.Terminates := by
  intro text before request midnight world
  -- The text is parsed once, so that what follows can be computed.
  let field : Field :=
    ⟨text, [.placeholder ⟨.count, some "03d", 0, 11⟩, .literal " at ",
      .placeholder ⟨.timestamp, some "mm", 15, 29⟩]⟩
  let template : CompiledTemplate :=
    ⟨none, some ⟨field, field.placeholders.map Placeholder.directive, rfl⟩, []⟩
  have parsed : Field.parse text = .ok field := by decide +kernel
  have compiled : CompiledTemplate.compile request.template = .ok template := by
    show (CompiledTemplate.compileOptional .value (some text)).bind _ = _
    rw [CompiledTemplate.compileOptional_of_parse parsed]
    rfl
  have accepted : request.accept = .ok template :=
    Request.accept_eq_ok_iff.mpr ⟨by decide +kernel, compiled, by decide +kernel⟩
  let minute (n : Fin 4) : Time.Instant :=
    ⟨60 * n.val, 0, by decide +revert, by decide +revert, by decide, by decide +revert⟩
  have readings : ∀ n : Fin 4, world.clock.reading n = some (minute n) := by decide +kernel
  have path₁ : Run.Schedule (.begin ⟨"server", "topic", {}, 2⟩ ⟨none, none, []⟩ 2 world) _ _ :=
    .head (.take rfl (Run.take_of_made (readings 0) rfl) rfl) <|
    .head (.take rfl (Run.take_of_made (readings 1) rfl) rfl) <|
    .head (.send _ _ rfl rfl) <| .head (.send _ _ rfl rfl) <|
    .head (.finish [_] _ [] rfl) <| .head (.finish [] _ [] rfl) .refl
  let left : World Rehearsal :=
    { world with
      clock := world.clock.skip 2
      sink := { taken := 2, deliveries := List.replicate 2 ⟨"server", "topic", ⟨none, none, []⟩⟩ } }
  have earlier : Series 2 world before _ _ left :=
    .carried rfl path₁ rfl (.refused rfl (.nil left))
  have started : start 2 request left = .ok (.begin request template 2 left) :=
    Run.start_of_accept accepted 2 left
  have path : Run.Schedule (.begin request template 2 left) _ _ :=
    .head (.take rfl (Run.take_of_made (readings 2) rfl) rfl) <|
    .head (.take rfl (Run.take_of_made (readings 3) rfl) rfl) <|
    .head (.send _ _ rfl rfl) <| .head (.send _ _ rfl rfl) <|
    .head (.finish [_] _ [] rfl) <| .head (.finish [] _ [] rfl) .refl
  have inRange : world.clock.InRange 4 := by
    intro k hk
    exact ⟨_, (congrArg world.clock.reading (Nat.zero_add k)).trans (readings ⟨k, hk⟩)⟩
  have count : acceptedCount (before ++ [request]) = 4 := by
    show acceptedCount [⟨"server", "topic", {}, 2⟩, ⟨"server", " ", {}, 5⟩, request] = 4
    rw [acceptedCount_of_accepted rfl, acceptedCount_of_refused rfl,
      acceptedCount_of_accepted accepted]
    rfl
  obtain ⟨hclock, hrequest, haccept, numbered, hlength, terminates⟩ :=
    numbered_of_series earlier started path rfl (count ▸ inRange)
  refine ⟨_, _, _, _, _, _, earlier, started, path, rfl, rfl, rfl, ?rendered, hclock, hrequest,
    haccept, numbered, hlength rfl, terminates⟩
  case rendered => decide +kernel

end Courier.Batch
