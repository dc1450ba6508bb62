import Courier.Proofs.Batch.Broadcast
import Courier.Proofs.Batch.Prefix

/-!
# The summary of a batch tells what became of its iterations

Every iteration of a batch succeeds, fails or is not sent. The summary counts them in words, and
leaves out what there is none of; its numbers can be read again all the same, since each of them
stands in front of its label.
-/

namespace Courier.Batch

/-! ## Fates -/

/-- What can become of an iteration. -/
inductive Fate where
  | succeeded
  | failed
  | unsent
deriving DecidableEq, Repr

/-- What the answer to a call makes of its iteration. -/
def Call.fate (c : Call) : Fate :=
  match c.result with
  | .ok () => .succeeded
  | .error _ => .failed

/-- What became of an iteration in a batch that made these calls of the sink. -/
def fateOf (cs : List Call) (i : Nat) : Fate :=
  (cs.find? (·.index = i)).elim .unsent Call.fate

/-- How many of `count` iterations met this fate. -/
def fated (count : Nat) (cs : List Call) (f : Fate) : Nat :=
  (List.range' 1 count).countP (fateOf cs · = f)

/-- A message that the sink took has succeeded. -/
theorem Call.fate_eq_succeeded_iff {c : Call} : c.fate = .succeeded ↔ c.result = .ok () := by
  rw [fate]
  cases c.result <;> simp

/-- A message that the sink did not take has failed. -/
theorem Call.fate_eq_failed_iff {c : Call} : c.fate = .failed ↔ c.result ≠ .ok () := by
  rw [fate]
  cases c.result <;> simp

/-- A message that was sent is not unsent. -/
theorem Call.fate_ne_unsent (c : Call) : c.fate ≠ .unsent := by
  rw [fate]
  cases c.result <;> simp

/-- The fate of an iteration that was sent is settled by its call. -/
theorem fateOf_index {cs : List Call} (once : (cs.map Call.index).Nodup) {c : Call} (hc : c ∈ cs) :
    fateOf cs c.index = c.fate := by
  rw [fateOf]
  cases hfound : cs.find? (·.index = c.index) with
  | none => exact absurd (decide_eq_true rfl) (List.find?_eq_none.mp hfound c hc)
  | some c' =>
    have hindex : c'.index = c.index := by simpa using List.find?_some hfound
    rw [List.inj_on_of_nodup_map once (List.mem_of_find?_eq_some hfound) hc hindex]
    rfl

/-- A message without a call is unsent. -/
theorem fateOf_of_uncalled {cs : List Call} {i : Nat} (h : ∀ c ∈ cs, c.index ≠ i) :
    fateOf cs i = .unsent := by
  have hnone : cs.find? (·.index = i) = none := by
    rw [List.find?_eq_none]
    intro c hc
    rw [decide_eq_true_eq]
    exact h c hc
  rw [fateOf, hnone]
  rfl

/-- When the first iterations were sent and no others, the fates are those of the calls. -/
theorem fated_eq {count : Nat} {cs : List Call}
    (indices : cs.map Call.index = List.range' 1 cs.length) (hle : cs.length ≤ count) (f : Fate) :
    fated count cs f =
      cs.countP (·.fate = f) + if f = .unsent then count - cs.length else 0 := by
  have once : (cs.map Call.index).Nodup := by
    rw [indices]
    exact List.nodup_range' 1
  -- The iterations are those that were sent and then those that were not.
  have hsplit : List.range' 1 count =
      cs.map Call.index ++ List.range' (1 + cs.length) (count - cs.length) := by
    rw [indices, List.range'_append_1, Nat.add_sub_cancel' hle]
  have hsent : (cs.map Call.index).countP (fateOf cs · = f) = cs.countP (·.fate = f) := by
    rw [List.countP_map]
    refine List.countP_congr fun c hc => ?_
    rw [Function.comp_apply, fateOf_index once hc]
  have hunsent : ∀ i ∈ List.range' (1 + cs.length) (count - cs.length), fateOf cs i = .unsent := by
    intro i hi
    apply fateOf_of_uncalled
    rintro c hc rfl
    have hmem : c.index ∈ List.range' 1 cs.length := indices ▸ List.mem_map_of_mem hc
    rw [List.mem_range'_1] at hmem hi
    omega
  have hrest : (List.range' (1 + cs.length) (count - cs.length)).countP (fateOf cs · = f) =
      if f = .unsent then count - cs.length else 0 := by
    by_cases hf : f = .unsent
    · subst hf
      rw [if_pos rfl, List.countP_eq_length.mpr fun i hi => decide_eq_true (hunsent i hi),
        List.length_range']
    · rw [if_neg hf, List.countP_eq_zero]
      intro i hi
      rw [decide_eq_true_eq, hunsent i hi]
      exact fun h => hf h.symm
  rw [fated, hsplit, List.countP_append, hsent, hrest]

/-- Every iteration meets one fate. -/
theorem fated_total (count : Nat) (cs : List Call) :
    fated count cs .succeeded + fated count cs .failed + fated count cs .unsent = count := by
  have htotal : ∀ is : List Nat, is.countP (fateOf cs · = .succeeded) +
      is.countP (fateOf cs · = .failed) + is.countP (fateOf cs · = .unsent) = is.length := by
    intro is
    induction is with
    | nil => rfl
    | cons i is ih =>
      simp only [List.countP_cons, List.length_cons, ← ih]
      cases fateOf cs i <;> simp <;> omega
  have hcount := htotal (List.range' 1 count)
  rwa [List.length_range'] at hcount

/-- All went well when no iteration met another fate. -/
theorem fated_eq_zero_iff {count : Nat} {cs : List Call} :
    fated count cs .failed = 0 ∧ fated count cs .unsent = 0 ↔
      ∀ i, 1 ≤ i → i ≤ count → fateOf cs i = .succeeded := by
  rw [fated, fated, List.countP_eq_zero, List.countP_eq_zero]
  simp only [List.mem_range'_1, decide_eq_true_eq]
  constructor
  · rintro ⟨hfailed, hunsent⟩ i hpos hle
    cases hfate : fateOf cs i with
    | succeeded => rfl
    | failed => exact absurd hfate (hfailed i (by omega))
    | unsent => exact absurd hfate (hunsent i (by omega))
  · intro hall
    constructor
    all_goals
      intro i hi
      rw [hall i hi.1 (by omega)]
      simp

/-! ## Figures -/

/-- The numbers in a summary. -/
structure Figures where
  requested : Nat
  succeeded : Nat
  failed : Nat
  cancelled : Nat
deriving DecidableEq, Repr

namespace Figures

/-- Reads words of which every second one is the label of the number in front of it. -/
def labelled? : List (List Char) → Option (List (List Char × Nat))
  | [] => some []
  | number :: label :: rest => do
    let n ← Decimal.read? number
    return (label, n) :: (← labelled? rest)
  | [_] => none

/-- Reads a summary, which may have commas behind its labels. What it does not mention is zero. -/
def read? (text : List Char) : Option Figures :=
  (labelled? ((text.filter (· != ',')).splitOn ' ')).map fun numbers =>
    let number (label : String) := (numbers.lookup label.toList).getD 0
    { requested := number "succeeded"
      succeeded := number "of"
      failed := number "failed"
      cancelled := number "cancelled" }

end Figures

namespace BatchResult

/-- The figures of a result. -/
def figures (r : BatchResult) : Figures :=
  ⟨r.requested, r.succeeded, r.failed, r.cancelled⟩

/-- A number with its label, unless there is nothing to count. -/
def labelledWords (n : Nat) (label : String) : List (List Char) :=
  if 0 < n then [Decimal.digits n, label.toList] else []

/-- The words of a summary. -/
def words (r : BatchResult) : List (List Char) :=
  [Decimal.digits r.succeeded, "of".toList, Decimal.digits r.requested, "succeeded".toList] ++
    labelledWords r.failed "failed" ++ labelledWords r.cancelled "cancelled"

/-- Dropping what is no digit leaves digits as they are. -/
theorem filter_digits {c : Char} (h : Decimal.isDigit c = false) (n : Nat) :
    (Decimal.digits n).filter (· != c) = Decimal.digits n := by
  rw [List.filter_eq_self]
  intro d hd
  rw [bne_iff_ne]
  exact ne_of_mem_of_not_mem hd (Decimal.notMem_digits h n)

/-- Between the words there is a blank, and commas come on top. -/
theorem filter_summary (r : BatchResult) :
    r.summary.toList.filter (· != ',') = [' '].intercalate r.words := by
  have hcomma : ∀ n, (Decimal.digits n).filter (· != ',') = Decimal.digits n :=
    filter_digits (by decide)
  rw [summary, words, labelledWords, labelledWords]
  split <;> split <;>
    simp [countText, List.intercalate, hcomma]

/-- No word has a blank in it. -/
theorem blank_notMem_word {r : BatchResult} {w : List Char} (hw : w ∈ r.words) : ' ' ∉ w := by
  have hdigits : ∀ n, ' ' ∉ Decimal.digits n := Decimal.notMem_digits (by decide)
  have hlabelled : ∀ n : Nat, ∀ label : String, ' ' ∉ label.toList →
      ∀ w ∈ labelledWords n label, ' ' ∉ w := by
    intro n label hlabel w hw
    rw [labelledWords] at hw
    split at hw
    · simp only [List.mem_cons, List.not_mem_nil, or_false] at hw
      rcases hw with rfl | rfl
      · exact hdigits n
      · exact hlabel
    · cases hw
  rw [words, List.mem_append, List.mem_append] at hw
  rcases hw with (hw | hw) | hw
  · simp only [List.mem_cons, List.not_mem_nil, or_false] at hw
    rcases hw with rfl | rfl | rfl | rfl
    · exact hdigits _
    · decide
    · exact hdigits _
    · decide
  · exact hlabelled _ _ (by decide) w hw
  · exact hlabelled _ _ (by decide) w hw

/-- A summary can be read again, also the numbers that it leaves out. -/
theorem read?_summary (r : BatchResult) : Figures.read? r.summary.toList = some r.figures := by
  have hwords : (r.summary.toList.filter (· != ',')).splitOn ' ' = r.words := by
    rw [filter_summary]
    exact List.splitOn_intercalate ' ' (fun w hw => blank_notMem_word hw) (by simp [words])
  rw [Figures.read?, hwords, figures, words, labelledWords, labelledWords]
  split <;> split <;>
    simp [Figures.labelled?, Decimal.read?_digits, List.lookup_cons] <;> omega

/-- The figures of a batch are the numbers of iterations that met each fate. -/
theorem figures_ofCalls {count : Nat} {cs : List Call}
    (indices : cs.map Call.index = List.range' 1 cs.length) (hle : cs.length ≤ count) :
    (ofCalls count cs).figures =
      ⟨count, fated count cs .succeeded, fated count cs .failed, fated count cs .unsent⟩ := by
  have hsucceeded : (cs.map Call.outcome).countP (·.isSuccess) =
      cs.countP (·.fate = .succeeded) := by
    rw [List.countP_map]
    refine List.countP_congr fun c _ => ?_
    rw [Function.comp_apply, Call.isSuccess_outcome, decide_eq_true_eq, Call.fate_eq_succeeded_iff]
  have hfailed : (cs.map Call.outcome).countP (!·.isSuccess) = cs.countP (·.fate = .failed) := by
    rw [List.countP_map]
    refine List.countP_congr fun c _ => ?_
    rw [Function.comp_apply, Bool.not_eq_true', ← Bool.not_eq_true, Call.isSuccess_outcome,
      decide_eq_true_eq, Call.fate_eq_failed_iff]
  have hunsent : cs.countP (·.fate = .unsent) = 0 := by
    rw [List.countP_eq_zero]
    intro c _
    rw [decide_eq_true_eq]
    exact c.fate_ne_unsent
  rw [figures, ofCalls, hsucceeded, hfailed, fated_eq indices hle, fated_eq indices hle,
    fated_eq indices hle, hunsent]
  simp

end BatchResult

/-! ## Endings -/

variable {σ : Type}

/-- Nothing is sent as a batch is given up. -/
theorem Run.sink_of_halted {r : Run σ} {cause : Halt} {left : World σ}
    (halted : r.take = .halted cause left) : left.sink = r.world.sink := by
  simp only [take] at halted
  split at halted
  · cases halted
    rfl
  · split at halted
    · cases halted
      rfl
    · cases halted

variable [Sink σ]

/-- It is given up for the clock only, as the template was judged before. -/
theorem Run.cause_of_schedule {concurrency : Nat} {request : Request} {world left : World σ}
    {run r : Run σ} {acts : List Act} {cause : Halt}
    (accepted : Batch.start concurrency request world = .ok run) (path : Schedule run acts r)
    (halted : r.take = .halted cause left) : cause = .clockOutOfRange := by
  obtain ⟨template, haccept, rfl⟩ := eq_begin_of_start accepted
  have valid : r.template.validate = .ok () := by
    rw [(keeps_of_schedule path).template_eq]
    exact Request.validate_of_accept haccept
  obtain ⟨-, ⟨rfl, -⟩ | ⟨instant, e, desk, -, hmade⟩⟩ := take_eq_halted halted
  · rfl
  · obtain ⟨message, desk', hmade'⟩ := Template.CompiledTemplate.materializeIn_of_validate valid
      (.make (r.taken + 1) instant false) r.world.supply
    rw [hmade'] at hmade
    cases hmade

/-- How a request ends, after these steps and with this left of the world. -/
inductive Conclusion (request : Request) (world : World σ) :
    List Act → Verdict → World σ → Prop where
  /-- It is refused for its first fault, and nothing is done. -/
  | refused {cause : DispatchError} (fault : request.faults.head? = some cause) :
    Conclusion request world [] (.refused cause) world
  | interrupted {acts : List Act} {left : World σ} (faultless : request.faults = [])
    (served : Served world.sink (calls acts) left.sink)
    (indices : (calls acts).map Call.index = List.range' 1 (calls acts).length) :
    Conclusion request world acts .clockOutOfRange left
  /-- The result is that of the calls, which were made for the first iterations in their order. -/
  | done {acts : List Act} {left : World σ} (faultless : request.faults = [])
    (served : Served world.sink (calls acts) left.sink)
    (indices : (calls acts).map Call.index = List.range' 1 (calls acts).length)
    (length_le : (calls acts).length ≤ request.count) :
    Conclusion request world acts (.done (.ofCalls request.count (calls acts))) left

namespace Conclusion

variable {request : Request} {world left : World σ} {acts : List Act} {verdict : Verdict}

/-- The calls are all that the sink sees. -/
theorem served (h : Conclusion request world acts verdict left) :
    Served world.sink (calls acts) left.sink := by
  cases h with
  | refused fault => exact .nil
  | interrupted faultless served => exact served
  | done faultless served => exact served

/-- The calls are for the first messages, in order. -/
theorem indices (h : Conclusion request world acts verdict left) :
    (calls acts).map Call.index = List.range' 1 (calls acts).length := by
  cases h with
  | refused fault => rfl
  | interrupted faultless served indices => exact indices
  | done faultless served indices => exact indices

end Conclusion

/-- However its events go, a request ends in one of these ways. -/
theorem conclusion_of_path {concurrency : Nat} {request : Request} {world left : World σ}
    {line line' : Line} (fresh : line.Carries []) {acts : List Act} {verdict : Verdict}
    (path : Broadcast.Path (spawn concurrency request world line) acts
      ⟨.ended verdict left, line'⟩) : Conclusion request world acts verdict left := by
  cases accepted : start concurrency request world with
  | error cause =>
    rw [spawn, accepted] at path
    obtain ⟨rfl, hended, -⟩ := Broadcast.eq_of_ended path
    cases hended
    exact .refused (start_eq_error_iff.mp accepted)
  | ok run =>
    have faultless := faults_eq_nil_of_start accepted
    obtain ⟨template, -, rfl⟩ := Run.eq_begin_of_start accepted
    obtain ⟨es, stands, -⟩ | ⟨r, cause, left', schedule, room, halted, hended⟩ :=
      Broadcast.at_or_halted_of_path accepted fresh path
    · cases stands with
      | @ended r schedule complete =>
        have follows := Run.follows_of_schedule accepted schedule
        rw [follows.finalize_eq (Run.inFlight_of_isOver complete)]
        exact .done faultless schedule.served (follows.index_calls schedule)
          follows.length_calls_le
    · -- An accepted template makes every message, so that only the clock can stop a batch.
      obtain rfl := Run.cause_of_schedule accepted schedule halted
      cases hended
      exact .interrupted faultless ((Run.sink_of_halted halted).symm ▸ schedule.served)
        ((Run.follows_of_schedule accepted schedule).index_calls schedule)

/-- As long as the clock goes on, it is not interrupted. -/
theorem ne_clockOutOfRange_of_path {concurrency : Nat} {request : Request} {world left : World σ}
    (inRange : world.clock.InRange request.count) {line line' : Line} (fresh : line.Carries [])
    {acts : List Act} {verdict : Verdict}
    (path : Broadcast.Path (spawn concurrency request world line) acts
      ⟨.ended verdict left, line'⟩) : verdict ≠ .clockOutOfRange := by
  rintro rfl
  cases accepted : start concurrency request world with
  | error cause =>
    rw [spawn, accepted] at path
    obtain ⟨-, hended, -⟩ := Broadcast.eq_of_ended path
    cases hended
  | ok run =>
    obtain ⟨es, stands, -⟩ := Broadcast.at_of_path inRange accepted fresh path
    cases stands

end Courier.Batch
