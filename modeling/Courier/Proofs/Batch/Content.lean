import Courier.Proofs.Batch.Concurrency
import Courier.Proofs.Template.Rendering

/-!
# What the messages of a batch are made of

Iterations are taken in the order of their indices, each with the next reading of the clock and with
the next identifiers, as many as there are `{uuid}` in the template. So the message of an iteration
is known from the world in which the batch began and from its index alone, however far ahead of the
sends it was made; and when nothing is cancelled, a batch leaves the clock after just as many
readings as it has messages, for the next batch to go on with.
-/

namespace Courier.Batch

open Template

variable {σ : Type}

/-! ## Iterations taken in a row -/

/-- The clock and the supply are left after one reading and one share of identifiers for each. -/
theorem Makes.skip {template : CompiledTemplate} {taken : Nat} {clock clock' : Time.Clock}
    {supply supply' : UuidSupply} {items : List (Nat × Message)}
    (h : Makes template taken clock supply items clock' supply') :
    clock' = clock.skip items.length ∧ supply' = supply.skip (items.length * template.draws) := by
  induction h with
  | nil taken clock supply => exact ⟨rfl, by simp [UuidSupply.skip]⟩
  | @cons taken clock clock' supply supply' instant message desk items reading made _ ih =>
    obtain ⟨-, hsupply⟩ := CompiledTemplate.spelt_of_materializeIn made
    have hclock : clock.read.2 = clock.skip 1 := rfl
    have hlength : 1 + items.length = items.length + 1 := Nat.add_comm _ _
    have hdraws : template.draws + items.length * template.draws
        = (items.length + 1) * template.draws := by
      rw [Nat.succ_mul, Nat.add_comm]
    rw [List.length_cons]
    constructor
    · rw [ih.1, hclock, Time.Clock.skip_skip, hlength]
    · rw [ih.2, hsupply, UuidSupply.skip_skip, hdraws]

/-- Each iteration has its own reading and its own share of identifiers. -/
theorem Makes.exists_made {template : CompiledTemplate} {taken k : Nat} {clock clock' : Time.Clock}
    {supply supply' : UuidSupply} {items : List (Nat × Message)} {item : Nat × Message}
    (h : Makes template taken clock supply items clock' supply') (hk : items[k]? = some item) :
    item.1 = taken + k + 1 ∧ ∃ instant desk, clock.reading (clock.reads + k) = some instant ∧
      template.materializeIn (.make (taken + k + 1) instant false)
        (supply.skip (k * template.draws)) = (.ok item.2, desk) := by
  induction h generalizing k with
  | nil taken clock supply => simp at hk
  | @cons taken clock clock' supply supply' instant message desk items reading made _ ih =>
    cases k with
    | zero =>
      have hitem : (taken + 1, message) = item := by simpa using hk
      have hsupply : supply.skip (0 * template.draws) = supply := by simp [UuidSupply.skip]
      subst hitem
      rw [hsupply]
      exact ⟨rfl, instant, desk, reading, made⟩
    | succ k =>
      have hrest : items[k]? = some item := by simpa using hk
      obtain ⟨hindex, instant', desk', hreading, hmade⟩ := ih hrest
      obtain ⟨-, hsupply⟩ := CompiledTemplate.spelt_of_materializeIn made
      have htaken : taken + 1 + k + 1 = taken + (k + 1) + 1 := by omega
      -- The rest was made one reading and one share of identifiers later.
      have hreads : clock.read.2.reads + k = clock.reads + (k + 1) := by
        rw [Time.Clock.reads_read]
        omega
      have hdraws : template.draws + k * template.draws = (k + 1) * template.draws := by
        rw [Nat.succ_mul, Nat.add_comm]
      rw [Time.Clock.reading_read, hreads] at hreading
      rw [hsupply, UuidSupply.skip_skip, hdraws, htaken] at hmade
      exact ⟨hindex.trans htaken, instant', desk', hreading, hmade⟩

namespace Run

variable [Sink σ]

/-- What was taken was made one after the other. -/
theorem Schedule.makes {run r : Run σ} {acts : List Act} (path : Schedule run acts r) :
    Makes run.template run.taken run.world.clock run.world.supply (made acts) r.world.clock
        r.world.supply ∧ r.taken = run.taken + (made acts).length := by
  induction path with
  | refl => exact ⟨.nil _ _ _, rfl⟩
  | @step acts act r r' path next ih =>
    obtain ⟨hmakes, htaken⟩ := ih
    have htemplate : r.template = run.template := (keeps_of_schedule path).template_eq
    rw [made_concat]
    cases next with
    | @take _ message room made waits =>
      obtain ⟨instant, message', desk, reading, hmade, rfl⟩ := take_eq_running made
      have hmessage : message' = message := by simpa using waits
      subst hmessage
      rw [htemplate, htaken] at hmade
      have hlength : run.taken + ((Batch.made acts).length + 1) =
          run.taken + (Batch.made acts).length + 1 := rfl
      rw [Act.item?, Option.toList_some, List.length_append, List.length_singleton, hlength, htaken]
      exact ⟨hmakes.concat reading hmade, rfl⟩
    | send first rest waits live =>
      rw [start_of_live live]
      simpa [Act.item?] using And.intro hmakes htaken
    | drop first rest waits cancelled =>
      rw [start_of_cancelled cancelled]
      simpa [Act.item?] using And.intro hmakes htaken
    | finish before o after flies =>
      simpa [Act.item?, finish] using And.intro hmakes htaken
    | cancel => simpa [Act.item?, cancel] using And.intro hmakes htaken

/-- Iterations are taken, and then started in the same order with the messages that were made for
them, until some are dropped after a cancellation. -/
theorem Schedule.made_eq {run r : Run σ} {acts : List Act} (path : Schedule run acts r) :
    ∃ skipped, run.waiting ++ made acts = (calls acts).map Call.item ++ skipped ++ r.waiting ∧
      skipped.map Prod.fst = dropped acts ∧ (r.world.cancelled = false → skipped = []) := by
  induction path with
  | refl => exact ⟨[], List.append_nil _, rfl, fun _ => rfl⟩
  | @step acts act r r' _ next ih =>
    obtain ⟨skipped, hmade, hdropped, hlive⟩ := ih
    rw [made_concat, calls_concat, dropped_concat, ← List.append_assoc, hmade, ← hdropped]
    cases next with
    | @take _ message room made waits =>
      obtain ⟨instant, message', desk, -, -, rfl⟩ := take_eq_running made
      have hmessage : message' = message := by simpa using waits
      subst hmessage
      exact ⟨skipped, by simp [Act.item?, Act.call?], by simp [Act.dropped?], hlive⟩
    | send first rest waits live =>
      -- Nothing was dropped before a send, as no batch comes back to life.
      have hnone : skipped = [] := hlive live
      subst hnone
      have hitem : (r.call first).item = first := rfl
      rw [start_of_live live, waits]
      exact ⟨[], by simp [Act.item?, Act.call?, hitem], by simp [Act.dropped?], fun _ => rfl⟩
    | drop first rest waits cancelled =>
      rw [start_of_cancelled cancelled, waits]
      refine ⟨skipped ++ [first], by simp [Act.item?, Act.call?], by simp [Act.dropped?], ?_⟩
      intro live
      rw [cancelled] at live
      cases live
    | finish before o after flies =>
      exact ⟨skipped, by simp [Act.item?, Act.call?, finish], by simp [Act.dropped?], hlive⟩
    | cancel =>
      refine ⟨skipped, by simp [Act.item?, Act.call?, cancel], by simp [Act.dropped?], ?_⟩
      intro live
      cases live

/-! ## The message of an iteration -/

section Begin

variable {request : Request} {template : CompiledTemplate} {window : Nat} {world : World σ}
  {r : Run σ} {acts : List Act}

/-- As many messages are counted as are made. -/
theorem taken_eq_length (path : Schedule (.begin request template window world) acts r) :
    r.taken = (made acts).length :=
  path.makes.2.trans (Nat.zero_add _)

/-- The messages of a batch are made for its iterations from the first on. -/
theorem index_made (path : Schedule (.begin request template window world) acts r) :
    (made acts).map Prod.fst = List.range' 1 (made acts).length := by
  have hmakes := path.makes.1
  apply List.ext_getElem
  · simp
  · intro k hk _
    have hlt : k < (made acts).length := by simpa using hk
    have hfst := (hmakes.exists_made (List.getElem?_eq_getElem hlt)).1
    have htaken : (begin request template window world).taken = 0 := rfl
    rw [List.getElem_map, List.getElem_range', hfst, htaken]
    omega

/-- Each message is made for its index, its reading and its identifiers. -/
theorem exists_instant_of_mem_made
    (path : Schedule (.begin request template window world) acts r)
    {item : Nat × Template.Message} (hitem : item ∈ made acts) :
    ∃ instant desk, world.clock.reading (world.clock.reads + (item.1 - 1)) = some instant ∧
      template.materializeIn (.make item.1 instant false)
        (world.supply.skip ((item.1 - 1) * template.draws)) = (.ok item.2, desk) := by
  obtain ⟨n, hn⟩ := List.mem_iff_getElem?.mp hitem
  obtain ⟨hindex, instant, desk, hreading, hmade⟩ := path.makes.1.exists_made hn
  have hbegin : (begin request template window world).taken + n + 1 = n + 1 := by
    rw [show (begin request template window world).taken = 0 from rfl, Nat.zero_add]
  rw [hbegin] at hindex hmade
  rw [hindex, Nat.add_sub_cancel]
  exact ⟨instant, desk, hreading, hmade⟩

/-- The sink gets the message that was made for the iteration. -/
theorem made_of_mem_calls (path : Schedule (.begin request template window world) acts r)
    {c : Call} (hc : c ∈ calls acts) :
    1 ≤ c.index ∧ c.index ≤ (made acts).length ∧ (made acts)[c.index - 1]? = some c.item := by
  obtain ⟨skipped, hmade, -, -⟩ := path.made_eq
  have hwaiting : (begin request template window world).waiting = [] := rfl
  have hindex := index_made path
  have hmem : c.item ∈ made acts := by
    rw [hwaiting, List.nil_append, List.append_assoc] at hmade
    rw [hmade]
    exact List.mem_append_left _ (List.mem_map_of_mem hc)
  obtain ⟨k, hk, hitem⟩ := List.getElem_of_mem hmem
  have hfst : c.index = k + 1 := by
    have hget : ((made acts).map Prod.fst)[k]? = some c.index := by
      rw [List.getElem?_map, List.getElem?_eq_getElem hk, hitem]
      rfl
    rw [hindex, List.getElem?_range' hk, Option.some.injEq] at hget
    omega
  have hpred : c.index - 1 = k := by omega
  refine ⟨by omega, by omega, ?_⟩
  rw [hpred, List.getElem?_eq_getElem hk, hitem]

end Begin

/-- The message of a call has this text at segment number `k` of the template, counted over all
texts of the template. The batch began as `run`: the message was made for the index of the call and
for the reading of the clock that as many others came before as iterations, with the identifiers
that follow those of the iterations before. -/
def TextAt (run : Run σ) (c : Call) (k : Nat) (text : String) : Prop :=
  ∃ instant rows, run.world.clock.reading (run.world.clock.reads + (c.index - 1)) = some instant ∧
    run.template.Spelt (.make c.index instant false) run.world.supply.series
      (run.world.supply.drawn + (c.index - 1) * run.template.draws) c.delivery.message rows ∧
    rows.flatten[k]? = some text

/-- The number of the identifier that a `{uuid}` at segment number `k` has in the iteration of this
index. -/
def idAt (run : Run σ) (index k : Nat) : Nat :=
  run.world.supply.drawn + (index - 1) * run.template.draws +
    drawsOf (run.template.segments.take k)

omit [Sink σ] in
/-- What the text at a segment is, is settled by the index. -/
theorem TextAt.text_eq {run : Run σ} {c : Call} {k : Nat} {text : String} {s : Segment}
    (h : run.TextAt c k text) (hs : run.template.segments[k]? = some s) :
    ∃ instant, run.world.clock.reading (run.world.clock.reads + (c.index - 1)) = some instant ∧
      s.text (.make c.index instant false) (run.world.supply.series (run.idAt c.index k)) =
        .ok text := by
  obtain ⟨instant, rows, hreading, hspelt, htext⟩ := h
  obtain ⟨text', htext', hs'⟩ := hspelt.flatten.exists_text hs
  rw [htext, Option.some.injEq] at htext'
  subst htext'
  exact ⟨instant, hreading, hs'⟩

/-- The message of a call is the one made for its index, its reading and its identifiers. -/
theorem materializeIn_of_mem_calls {request : Request} {template : CompiledTemplate} {window : Nat}
    {world : World σ} {r : Run σ} {acts : List Act}
    (path : Schedule (.begin request template window world) acts r) {c : Call}
    (hc : c ∈ calls acts) :
    ∃ instant desk, world.clock.reading (world.clock.reads + (c.index - 1)) = some instant ∧
      template.materializeIn (.make c.index instant false)
        (world.supply.skip ((c.index - 1) * template.draws)) = (.ok c.delivery.message, desk) := by
  obtain ⟨-, -, hitem⟩ := made_of_mem_calls path hc
  exact exists_instant_of_mem_made path (List.mem_of_getElem? hitem)

/-- Each segment of the template has its text in the message. -/
theorem exists_textAt {request : Request} {template : CompiledTemplate} {window : Nat}
    {world : World σ} {r : Run σ} {acts : List Act}
    (path : Schedule (.begin request template window world) acts r) {c : Call}
    (hc : c ∈ calls acts) {k : Nat} {s : Segment} (hs : template.segments[k]? = some s) :
    ∃ text, (begin request template window world).TextAt c k text := by
  obtain ⟨instant, desk, hreading, hmade⟩ := materializeIn_of_mem_calls path hc
  obtain ⟨⟨rows, hspelt⟩, -⟩ := CompiledTemplate.spelt_of_materializeIn hmade
  obtain ⟨text, htext, -⟩ := hspelt.flatten.exists_text hs
  exact ⟨text, instant, rows, hreading, hspelt, htext⟩

end Run

end Courier.Batch
