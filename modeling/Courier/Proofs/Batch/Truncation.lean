import Courier.Proofs.Batch.Preview
import Mathlib.Data.Nat.Find

/-!
# A full medium cuts a preview off at one byte

A batch goes on when its medium is full: the message that does not fit any more fails, and so do all
that come after it, as a full medium takes nothing. So the output is a front part of all lines, and
the messages that succeed are the first ones, those whose lines are in it as a whole.
-/

namespace Courier.Batch

open Template

/-- A batch of `count` messages, begun in this world, has shown them as far as its medium had room
for `room` bytes. -/
structure Truncated (template : CompiledTemplate) (count room : Nat) (world : World Preview)
    (lines : List (List UInt8)) (result : BatchResult) (left : World Preview) : Prop where
  /-- There is a line for each message, which is made for its index. -/
  length_lines : lines.length = count
  made : ∀ i, 1 ≤ i → i ≤ count → ∃ instant message,
    world.clock.reading (world.clock.reads + (i - 1)) = some instant ∧
      (template.materializeIn (.make i instant false)
        (world.supply.skip ((i - 1) * template.draws))).1 = .ok message ∧
      lines[i - 1]? = some (Preview.line message)
  /-- What was written are the first bytes of all lines. -/
  output_eq : left.sink.output =
    world.sink.output ++ lines.flatten.take (min room lines.flatten.length)
  /-- Every message has an outcome, and none is cancelled. -/
  indices : result.outcomes.map Outcome.index = List.range' 1 count
  cancelled_eq : result.cancelled = 0
  /-- A message succeeds just when its line and those before it fit. -/
  success_iff : ∀ o ∈ result.outcomes,
    o.isSuccess = true ↔ (lines.take o.index).flatten.length ≤ room
  failure : ∀ o ∈ result.outcomes, o.isSuccess = false →
    o.error = some ⟨"Failed to write message: " ++ world.sink.fault⟩
  /-- The first `m` messages succeed and their lines are complete, and all later ones fail. -/
  cut : ∃ m ≤ count, (∀ o ∈ result.outcomes, o.isSuccess = true ↔ o.index ≤ m) ∧
    ∃ rest, left.sink.output = world.sink.output ++ (lines.take m).flatten ++ rest

/-- Calls for the indices from 1 on stand in the places of their indices. -/
theorem index_of_getElem? {cs : List Call} {c : Call} {n k : Nat}
    (indices : cs.map Call.index = List.range' 1 n) (hc : cs[k]? = some c) : c.index = k + 1 := by
  have hlength : cs.length = n := by
    simpa using congrArg List.length indices
  have hk : k < n := hlength ▸ (List.getElem?_eq_some_iff.mp hc).1
  have hindex : (cs.map Call.index)[k]? = some c.index := by
    rw [List.getElem?_map, hc]
    rfl
  rw [indices, List.getElem?_range' hk, Option.some_inj] at hindex
  omega

/-- The first lines are no longer than more of them. -/
theorem length_flatten_take_le (lines : List (List UInt8)) {i j : Nat} (h : i ≤ j) :
    (lines.take i).flatten.length ≤ (lines.take j).flatten.length := by
  have hsplit := List.take_append_drop i (lines.take j)
  rw [List.take_take, Nat.min_eq_left h] at hsplit
  rw [← hsplit, List.flatten_append, List.length_append]
  exact Nat.le_add_right _ _

/-- Lines that fit as a whole are in what is written of all. -/
theorem exists_take_flatten (lines : List (List UInt8)) {i room : Nat}
    (h : (lines.take i).flatten.length ≤ room) :
    ∃ rest, lines.flatten.take room = (lines.take i).flatten ++ rest := by
  refine ⟨(lines.drop i).flatten.take (room - (lines.take i).flatten.length), ?_⟩
  calc lines.flatten.take room
      = ((lines.take i).flatten ++ (lines.drop i).flatten).take room := by
        rw [← List.flatten_append, List.take_append_drop]
    _ = _ := by rw [List.take_append, List.take_of_length_le h]

/-- What a medium with this much room answers to a call hangs on the lines up to its own. -/
theorem result_of_room {s t : Preview} {cs : List Call} {c : Call} {n room : Nat}
    (served : Served s cs t) (limited : s.room = some room)
    (indices : cs.map Call.index = List.range' 1 n) (hc : c ∈ cs) :
    (c.result = .ok () ↔ ((cs.map Preview.lineOf).take c.index).flatten.length ≤ room) ∧
      (room < ((cs.map Preview.lineOf).take c.index).flatten.length →
        c.result = .error ⟨"Failed to write message: " ++ s.fault⟩) := by
  obtain ⟨k, hk⟩ := List.mem_iff_getElem?.mp hc
  have hok := Preview.result_eq_ok_iff_of_served served hk
  have herror := (Preview.result_of_served served hk).2
  rw [Preview.fits_of_room_eq_some limited] at hok herror
  rw [Nat.not_le] at herror
  rw [index_of_getElem? indices hk, ← List.map_take, ← List.flatMap_def]
  exact ⟨hok, herror⟩

/-- Whatever the schedule, a preview with limited room has the front of the lines that were sent. -/
theorem truncated_of_schedule {concurrency room : Nat} {request : Request}
    {template : CompiledTemplate} {world : World Preview} {last : Run Preview} {acts : List Act}
    (accepted : start concurrency request world =
      .ok (.begin request template (max 1 concurrency) world))
    (limited : world.sink.room = some room) (live : world.cancelled = false)
    (inside : .cancel ∉ acts)
    (path : Run.Schedule (.begin request template (max 1 concurrency) world) acts last)
    (ended : last.isOver = true) :
    Truncated template request.count room world ((calls acts).map Preview.lineOf)
      last.tally.finalize last.world := by
  have follows := Run.follows_of_schedule accepted path
  have hlength := Run.length_calls_of_start accepted path ended
    (Preview.live_of_schedule path inside live)
  have hindices := follows.index_calls path
  rw [hlength] at hindices
  have hserved : Served world.sink (calls acts) last.world.sink := path.served
  rw [follows.finalize_eq (Run.inFlight_of_isOver ended)]
  generalize hlines : (calls acts).map Preview.lineOf = lines
  have hresult := fun c hc => result_of_room (c := c) hserved limited hindices hc
  rw [hlines] at hresult
  have houtput : last.world.sink.output = world.sink.output ++ lines.flatten.take room := by
    rw [(Preview.takes_of_served hserved).output_eq, Preview.fitting, limited, List.flatMap_def,
      hlines]
  have hsuccess : ∀ o ∈ (BatchResult.ofCalls request.count (calls acts)).outcomes,
      o.isSuccess = true ↔ (lines.take o.index).flatten.length ≤ room := by
    intro o ho
    obtain ⟨c, hc, rfl⟩ := List.mem_map.mp ho
    rw [Call.isSuccess_outcome, Call.index_outcome]
    exact (hresult c hc).1
  constructor
  case length_lines => rw [← hlines, List.length_map, hlength]
  case made =>
    intro i hpos hle
    obtain ⟨c, hc, rfl⟩ := exists_call_of_indices hindices hpos hle
    obtain ⟨instant, desk, hreading, hmade⟩ :=
      Run.materializeIn_of_mem_calls path (List.mem_of_getElem? hc)
    refine ⟨instant, c.delivery.message, hreading, congrArg Prod.fst hmade, ?_⟩
    rw [← hlines, List.getElem?_map, hc]
    rfl
  case output_eq => rw [houtput, ← List.take_eq_take_min]
  case indices => exact (map_index_outcome (calls acts)).trans hindices
  case cancelled_eq =>
    show request.count - (calls acts).length = 0
    rw [hlength, Nat.sub_self]
  case success_iff => exact hsuccess
  case failure =>
    intro o ho hfailed
    have hlong : room < (lines.take o.index).flatten.length := by
      rw [← Nat.not_le, ← hsuccess o ho, hfailed]
      exact Bool.false_ne_true
    obtain ⟨c, hc, rfl⟩ := List.mem_map.mp ho
    rw [Call.index_outcome] at hlong
    rw [Call.outcome, (hresult c hc).2 hlong]
    rfl
  case cut =>
    -- The last message whose line and those before it fit; more lines are longer.
    let Fit (i : Nat) : Prop := (lines.take i).flatten.length ≤ room
    have hzero : Fit 0 := Nat.zero_le room
    have hfit : Fit (Nat.findGreatest Fit request.count) :=
      Nat.findGreatest_spec (Nat.zero_le request.count) hzero
    refine ⟨Nat.findGreatest Fit request.count, Nat.findGreatest_le request.count, ?_, ?_⟩
    · intro o ho
      rw [hsuccess o ho]
      constructor
      · intro hroom
        have hindex : o.index ∈ List.range' 1 request.count := by
          rw [← hindices, ← map_index_outcome]
          exact List.mem_map_of_mem ho
        rw [List.mem_range'_1] at hindex
        exact Nat.le_findGreatest (by omega) hroom
      · intro hle
        exact Nat.le_trans (length_flatten_take_le lines hle) hfit
    · obtain ⟨rest, hrest⟩ := exists_take_flatten lines hfit
      refine ⟨rest, ?_⟩
      rw [houtput, hrest, List.append_assoc]

/-- When a medium takes a limited number of bytes in all, the preview of an accepted request at any
concurrency shows its messages as far as they fit and fails the others, as long as it is not
cancelled: on every schedule that comes to its end, as all do while the clock goes on, and so on
that of the sink itself, which answers at once. -/
theorem truncated_of_accept {concurrency room : Nat} {request : Request}
    {template : CompiledTemplate} {world : World Preview}
    (accepted : request.accept = .ok template) (limited : world.sink.room = some room)
    (live : world.cancelled = false) :
    ∃ run, start concurrency request world = .ok run ∧
      (∀ acts last, .cancel ∉ acts → Run.Schedule run acts last → last.isOver = true →
        ∃ lines result, (Run.Ending.complete last).report.1.verdict = .done result ∧
          Truncated template request.count room world lines result last.world) ∧
      (world.clock.InRange request.count → run.Terminates ∧
        ∃ lines result, (dispatch concurrency request world).1.verdict = .done result ∧
          Truncated template request.count room world lines result
            (dispatch concurrency request world).2) := by
  have started := Run.start_of_accept accepted concurrency world
  have hschedule : ∀ acts last, .cancel ∉ acts →
      Run.Schedule (.begin request template (max 1 concurrency) world) acts last →
        last.isOver = true → ∃ lines result,
          (Run.Ending.complete last).report.1.verdict = .done result ∧
            Truncated template request.count room world lines result last.world :=
    fun acts last inside path ended =>
      ⟨_, _, rfl, truncated_of_schedule started limited live inside path ended⟩
  refine ⟨_, started, hschedule, ?_⟩
  intro inRange
  refine ⟨Run.terminates_of_start inRange started, ?_⟩
  obtain ⟨acts, last, inside, -, path, ended, hend⟩ := exists_complete_of_start inRange started
  rw [dispatch_of_complete started hend]
  exact hschedule acts last inside path ended

/-- The second of three lines fits but for its line feed. -/
theorem truncated_of_missing_line_feed :
    let request : Request := ⟨"server", "topic", {}, 3⟩
    let world : World Preview :=
      { clock := (World.rehearsal []).clock, supply := .seeded 0, sink := { room := some 77 } }
    request.accept = .ok ⟨none, none, []⟩ ∧ (Preview.line ⟨none, none, []⟩).length = 39 ∧
      (callsOf 2 request world).map (·.result.isOk) = [true, false, false] ∧
      (dispatch 2 request world).2.sink.output.length = 77 ∧
      ∃ run, start 2 request world = .ok run ∧
        (∀ acts last, .cancel ∉ acts → Run.Schedule run acts last → last.isOver = true →
          ∃ lines result, (Run.Ending.complete last).report.1.verdict = .done result ∧
            Truncated ⟨none, none, []⟩ 3 77 world lines result last.world) ∧
        (world.clock.InRange 3 → run.Terminates ∧
          ∃ lines result, (dispatch 2 request world).1.verdict = .done result ∧
            Truncated ⟨none, none, []⟩ 3 77 world lines result (dispatch 2 request world).2) := by
  intro request world
  have accepted : Request.accept ⟨"server", "topic", {}, 3⟩ = .ok ⟨none, none, []⟩ := rfl
  exact ⟨accepted, by decide +kernel, by decide +kernel, by decide +kernel,
    truncated_of_accept accepted rfl rfl⟩

end Courier.Batch
