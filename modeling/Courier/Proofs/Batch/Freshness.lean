import Courier.Proofs.Batch.Content
import Courier.Proofs.Uuid

/-!
# No identifier is used twice

Every iteration that is taken uses up a share of identifiers of its own, as many as there are
`{uuid}` in the template, and each `{uuid}` takes the next one of the share. So the number of the
identifier behind a `{uuid}` tells the iteration and the place, and as long as the supply does not
repeat itself, no two of them show the same. The share of an iteration that is dropped is used up
all the same.
-/

namespace Courier

/-- As long as a supply is fresh, an identifier tells its number. -/
theorem UuidSupply.FreshUpTo.eq_of_series {s : UuidSupply} {stop m n : Nat} (h : s.FreshUpTo stop)
    (hm : s.drawn ≤ m ∧ m < stop) (hn : s.drawn ≤ n ∧ n < stop) (hsame : s.series m = s.series n) :
    m = n := by
  rcases Nat.lt_trichotomy m n with hlt | heq | hgt
  · exact absurd hsame (h m n hm.1 hlt hn.2)
  · exact heq
  · exact absurd hsame.symm (h n m hn.1 hgt hm.2)

namespace Batch

open Template

variable {σ : Type}

namespace Run

/-! ## Shares of identifiers -/

/-- The identifier with number `n` belongs to the iteration of this index. -/
def Owns (run : Run σ) (index n : Nat) : Prop :=
  run.world.supply.drawn + (index - 1) * run.template.draws ≤ n ∧
    n < run.world.supply.drawn + index * run.template.draws

section Owns

variable {run : Run σ} {i i' k k' n n' : Nat}

/-- The identifier of a placeholder belongs to the iteration it is filled in for. -/
theorem owns_idAt (hpos : 1 ≤ i) (h : run.template.DrawsAt k) : run.Owns i (run.idAt i k) := by
  have hlt := h.lt_draws
  have hshare : i * run.template.draws = (i - 1) * run.template.draws + run.template.draws := by
    rw [← Nat.succ_mul, Nat.succ_eq_add_one, Nat.sub_add_cancel hpos]
  constructor
  · exact Nat.le_add_right _ _
  · rw [idAt, hshare]
    omega

/-- Iterations have their shares one after the other. -/
theorem Owns.lt_of_lt (hn : run.Owns i n) (hn' : run.Owns i' n') (hlt : i < i') : n < n' := by
  have hshares : i * run.template.draws ≤ (i' - 1) * run.template.draws :=
    Nat.mul_le_mul_right _ (by omega)
  have hstop := hn.2
  have hstart := hn'.1
  omega

/-- No identifier belongs to two iterations. -/
theorem Owns.index_eq (hn : run.Owns i n) (hn' : run.Owns i' n) : i = i' := by
  rcases Nat.lt_trichotomy i i' with hlt | heq | hgt
  · exact absurd (hn.lt_of_lt hn' hlt) (Nat.lt_irrefl n)
  · exact heq
  · exact absurd (hn'.lt_of_lt hn hgt) (Nat.lt_irrefl n)

/-- The number of an identifier tells the iteration and the place. -/
theorem idAt_injective (hpos : 1 ≤ i) (hpos' : 1 ≤ i') (h : run.template.DrawsAt k)
    (h' : run.template.DrawsAt k') (hsame : run.idAt i k = run.idAt i' k') : i = i' ∧ k = k' := by
  have hown := owns_idAt hpos h
  rw [hsame] at hown
  have hindex : i = i' := hown.index_eq (owns_idAt hpos' h')
  subst hindex
  refine ⟨rfl, ?_⟩
  rw [idAt, idAt, Nat.add_left_cancel_iff] at hsame
  rcases Nat.lt_trichotomy k k' with hlt | heq | hgt
  · have hless := h.lt_of_lt hlt
    omega
  · exact heq
  · have hless := h'.lt_of_lt hgt
    omega

end Owns

/-- A `{uuid}` shows the identifier of its own number. -/
theorem TextAt.uuid {run : Run σ} {c : Call} {k : Nat} {text : String} (h : run.TextAt c k text)
    (hk : run.template.DrawsAt k) :
    text = String.ofList (run.world.supply.series (run.idAt c.index k)).hyphenated := by
  obtain ⟨p, hp, name⟩ := hk
  obtain ⟨instant, -, hspelt⟩ := h.text_eq hp
  exact Segment.text_uuid name hspelt

/-! ## What a batch has drawn -/

/-- What the steps of a batch that began as `run` and has come to `r` did with identifiers. -/
structure Identified (run : Run σ) (acts : List Act) (r : Run σ) : Prop where
  /-- What stands at a `{uuid}` of a message that was sent is the standard form of an identifier
  that was drawn, and can be read back. -/
  shown : ∀ c ∈ calls acts, ∀ k, run.template.DrawsAt k → run.idAt c.index k < r.world.supply.drawn ∧
    ∃ text, run.TextAt c k text ∧ text.length = 36 ∧ Uuid.IsCanonical text.toList ∧
      Uuid.read? text.toList = some (run.world.supply.series (run.idAt c.index k))
  /-- No two `{uuid}` show the same, be it in one message or in two. -/
  distinct : ∀ c ∈ calls acts, ∀ c' ∈ calls acts, ∀ k k' text, run.template.DrawsAt k →
    run.template.DrawsAt k' → run.TextAt c k text → run.TextAt c' k' text → c = c' ∧ k = k'
  /-- The message of an iteration that was dropped was made, with identifiers of its own, and was
  not sent. -/
  dropped : ∀ i ∈ dropped acts, ∃ message instant rows, (i, message) ∈ made acts ∧
    run.template.Spelt (.make i instant false) run.world.supply.series
      (run.world.supply.drawn + (i - 1) * run.template.draws) message rows ∧
    ∀ c ∈ calls acts, c.index ≠ i
  /-- They are used up, and stand in no message that was sent. -/
  unshown : ∀ i ∈ Batch.dropped acts, ∀ n, run.Owns i n → n < r.world.supply.drawn ∧
    ∀ c ∈ calls acts, ∀ k text, run.template.DrawsAt k → run.TextAt c k text →
      Uuid.read? text.toList ≠ some (run.world.supply.series n)

variable [Sink σ]

section Begin

variable {request : Request} {template : CompiledTemplate} {window : Nat} {world : World σ}
  {r : Run σ} {acts : List Act}

/-- All shares of iterations taken are drawn. -/
theorem Owns.lt_drawn (path : Schedule (.begin request template window world) acts r) {i n : Nat}
    (hi : i ≤ (made acts).length) (hn : (begin request template window world).Owns i n) :
    n < r.world.supply.drawn := by
  have hdrawn : r.world.supply.drawn = world.supply.drawn + (made acts).length * template.draws :=
    congrArg UuidSupply.drawn path.makes.1.skip.2
  have hshares : i * template.draws ≤ (made acts).length * template.draws :=
    Nat.mul_le_mul_right _ hi
  have hstop : n < world.supply.drawn + i * template.draws := hn.2
  omega

/-- What is dropped was made before and is not among the calls. -/
theorem made_of_mem_dropped (path : Schedule (.begin request template window world) acts r) {i : Nat}
    (hi : i ∈ dropped acts) :
    ∃ message, (made acts)[i - 1]? = some (i, message) ∧ 1 ≤ i ∧ i ≤ (made acts).length ∧
      ∀ c ∈ calls acts, c.index ≠ i := by
  obtain ⟨skipped, hmade, hdropped, -⟩ := path.made_eq
  have hwaiting : (begin request template window world).waiting = [] := rfl
  rw [hwaiting, List.nil_append, List.append_assoc] at hmade
  have hindex := index_made path
  have hnodup : ((made acts).map Prod.fst).Nodup := by
    rw [hindex]
    exact List.nodup_range'
  rw [← hdropped] at hi
  obtain ⟨⟨i', message⟩, hskipped, rfl⟩ := List.mem_map.mp hi
  have hmem : (i', message) ∈ skipped ++ r.waiting := List.mem_append_left _ hskipped
  obtain ⟨k, hk, hitem⟩ := List.getElem_of_mem (hmade ▸ List.mem_append_right _ hmem)
  have hget : ((made acts).map Prod.fst)[k]? = some i' := by
    rw [List.getElem?_map, List.getElem?_eq_getElem hk, hitem]
    rfl
  rw [hindex, List.getElem?_range' hk, Option.some.injEq] at hget
  have hpred : i' - 1 = k := by omega
  refine ⟨message, ?_, by omega, by omega, ?_⟩
  · rw [hpred, List.getElem?_eq_getElem hk, hitem]
  · intro c hc hsame
    -- All indices are different, and those of the calls come first.
    rw [hmade, List.map_append] at hnodup
    have hcall : c.index ∈ ((calls acts).map Call.item).map Prod.fst :=
      List.mem_map_of_mem (List.mem_map_of_mem hc)
    have hlater : i' ∈ (skipped ++ r.waiting).map Prod.fst := List.mem_map_of_mem hmem
    exact List.disjoint_of_nodup_append hnodup hcall (hsame ▸ hlater)

end Begin

end Run

/-- As long as the supply gives no identifier twice, no two `{uuid}` of a batch show the same, in
one message or in two that were sent, whatever the schedule and whenever it is cancelled. -/
theorem identified_of_start [Sink σ] {concurrency : Nat} {request : Request} {world : World σ}
    {run r : Run σ} {acts : List Act} (accepted : start concurrency request world = .ok run)
    (path : Run.Schedule run acts r) (fresh : world.supply.FreshUpTo r.world.supply.drawn) :
    run.Identified acts r := by
  have follows := Run.follows_of_schedule accepted path
  obtain ⟨template, -, rfl⟩ := Run.eq_begin_of_start accepted
  -- Identifiers that belong to messages made so far were drawn by this batch.
  have howned : ∀ i n, i ≤ (made acts).length →
      (Run.begin request template (max 1 concurrency) world).Owns i n →
        world.supply.drawn ≤ n ∧ n < r.world.supply.drawn := by
    intro i n hi hn
    exact ⟨Nat.le_trans (Nat.le_add_right _ _) hn.1, hn.lt_drawn path hi⟩
  constructor
  case shown =>
    intro c hc k hk
    have ⟨p, hp, _⟩ := hk
    obtain ⟨hpos, hle, -⟩ := Run.made_of_mem_calls path hc
    obtain ⟨text, htext⟩ := Run.exists_textAt path hc hp
    refine ⟨(howned _ _ hle (Run.owns_idAt hpos hk)).2, text, htext, ?_⟩
    rw [htext.uuid hk, String.toList_ofList, String.length_ofList]
    exact ⟨Uuid.length_hyphenated _, Uuid.isCanonical_hyphenated _, Uuid.read?_hyphenated _⟩
  case distinct =>
    intro c hc c' hc' k k' text hk hk' htext htext'
    obtain ⟨hpos, hle, -⟩ := Run.made_of_mem_calls path hc
    obtain ⟨hpos', hle', -⟩ := Run.made_of_mem_calls path hc'
    have hsame := Uuid.hyphenated_injective
      (String.ofList_injective ((htext.uuid hk).symm.trans (htext'.uuid hk')))
    -- The supply repeats nothing, so that the same identifier has the same number in the series.
    have hnumber := fresh.eq_of_series (howned _ _ hle (Run.owns_idAt hpos hk))
      (howned _ _ hle' (Run.owns_idAt hpos' hk')) hsame
    obtain ⟨hindex, hplace⟩ := Run.idAt_injective hpos hpos' hk hk' hnumber
    exact ⟨List.inj_on_of_nodup_map follows.index_nodup hc hc' hindex, hplace⟩
  case dropped =>
    intro i hi
    obtain ⟨message, hitem, hpos, -, huncalled⟩ := Run.made_of_mem_dropped path hi
    obtain ⟨-, instant, desk, -, hmade⟩ := path.makes.1.exists_made hitem
    have hindex : (Run.begin request template (max 1 concurrency) world).taken + (i - 1) + 1 = i := by
      show 0 + (i - 1) + 1 = i
      omega
    rw [hindex] at hmade
    obtain ⟨⟨rows, hspelt⟩, -⟩ := CompiledTemplate.spelt_of_materializeIn hmade
    exact ⟨message, instant, rows, List.mem_of_getElem? hitem, hspelt, huncalled⟩
  case unshown =>
    intro i hi n hn
    obtain ⟨message, -, -, hle, huncalled⟩ := Run.made_of_mem_dropped path hi
    refine ⟨(howned i n hle hn).2, ?_⟩
    intro c hc k text hk htext hread
    obtain ⟨hpos, hle', -⟩ := Run.made_of_mem_calls path hc
    rw [htext.uuid hk, String.toList_ofList, Uuid.read?_hyphenated, Option.some.injEq] at hread
    have hown := Run.owns_idAt hpos hk
    have hnumber := fresh.eq_of_series (howned _ _ hle' hown) (howned i n hle hn) hread
    rw [hnumber] at hown
    exact huncalled c hc (hown.index_eq hn)

/-- Three iterations are taken, with three identifiers each. Two of them are sent, and the batch is
cancelled before the third. -/
theorem identified_of_interrupted :
    let request : Request :=
      ⟨"server", "topic", ⟨some "\x7buuid\x7d", some "\x7buuid\x7d/\x7buuid\x7d", []⟩, 4⟩
    ∃ run acts r, start 3 request (.rehearsal []) = .ok run ∧ Run.Schedule run acts r ∧
      r.isOver = true ∧ (calls acts).map Call.index = [1, 2] ∧ dropped acts = [3] ∧
      r.world.supply.drawn = 9 ∧ (World.rehearsal []).supply.FreshUpTo 9 ∧
      run.Identified acts r := by
  intro request
  let single : Field := ⟨"\x7buuid\x7d", [.placeholder ⟨.uuid, none, 0, 6⟩]⟩
  let double : Field :=
    ⟨"\x7buuid\x7d/\x7buuid\x7d",
      [.placeholder ⟨.uuid, none, 0, 6⟩, .literal "/", .placeholder ⟨.uuid, none, 7, 13⟩]⟩
  let template : CompiledTemplate :=
    ⟨some ⟨single, single.placeholders.map Placeholder.directive, rfl⟩,
      some ⟨double, double.placeholders.map Placeholder.directive, rfl⟩, []⟩
  have parsed : Field.parse single.source = .ok single := by decide +kernel
  have parsed' : Field.parse double.source = .ok double := by decide +kernel
  have compiled : CompiledTemplate.compile request.template = .ok template := by
    show (CompiledTemplate.compileOptional .key (some single.source)).bind _ = _
    rw [CompiledTemplate.compileOptional_of_parse parsed]
    show (CompiledTemplate.compileOptional .value (some double.source)).bind _ = _
    rw [CompiledTemplate.compileOptional_of_parse parsed']
    rfl
  have accepted : start 3 request (.rehearsal []) =
      .ok (.begin request template 3 (.rehearsal [])) := by
    have haccept : request.accept = .ok template :=
      Request.accept_eq_ok_iff.mpr ⟨by decide +kernel, compiled, by decide +kernel⟩
    exact Run.start_of_accept haccept 3 (.rehearsal [])
  -- What the messages are does not matter for the steps.
  have inRange : (World.rehearsal []).clock.InRange request.count := fun k _ => ⟨_, rfl⟩
  have take {r : Run Rehearsal} {acts : List Act} (room : r.canTake = true)
      (path : Run.Schedule (.begin request template 3 (.rehearsal [])) acts r) :
      ∃ (message : Message) (desk : Desk),
        Run.Schedule (.begin request template 3 (.rehearsal []))
          (acts ++ [.take (r.taken + 1) message])
          { r with
            taken := r.taken + 1
            waiting := r.waiting ++ [(r.taken + 1, message)]
            world := { r.world with clock := r.world.clock.read.2, supply := desk.supply } } := by
    obtain ⟨next, made⟩ := Run.take_of_schedule inRange accepted path room
    obtain ⟨-, message, desk, -, -, rfl⟩ := Run.take_eq_running made
    exact ⟨message, desk, .step path (.take room made rfl)⟩
  obtain ⟨m₁, d₁, path⟩ := take rfl .refl
  obtain ⟨m₂, d₂, path⟩ := take rfl path
  obtain ⟨m₃, d₃, path⟩ := take rfl path
  have path := path.trans <|
    .head (.send _ _ rfl rfl) <| .head (.send _ _ rfl rfl) <| .head .cancel <|
    .head (.drop _ _ rfl rfl) <| .head (.finish [_] _ [] rfl) <| .head (.finish [] _ [] rfl) .refl
  have fresh : (World.rehearsal []).supply.FreshUpTo 9 := by
    have hall : ∀ n < 9, ∀ m < n,
        (UuidSupply.seeded 0).series m ≠ (UuidSupply.seeded 0).series n := by
      decide +kernel
    intro m n _ hlt hstop
    exact hall n hstop m hlt
  have drawn := congrArg UuidSupply.drawn path.makes.1.skip.2
  exact ⟨_, _, _, accepted, path, rfl, rfl, rfl, drawn, fresh,
    identified_of_start accepted path (drawn ▸ fresh)⟩

end Batch

end Courier
