import Courier.Proofs.Batch.Content
import Courier.Proofs.Batch.Medium
import Courier.Proofs.Json.Record

/-!
# A preview is a message on each line

The JSON form of a message has no line feed in it, and in UTF-8 no other character has the byte of
one. So the lines of a preview can be told apart by that byte, and each can be decoded again. The
sink neither fails nor cancels while there is room, so that a batch which is not cancelled shows all
its messages, in the order of their indices.
-/

namespace Courier.Batch

open Template

namespace Preview

/-! ## Lines -/

/-- The message that a line without its line feed shows. -/
def message? (line : List UInt8) : Option Message :=
  (String.fromUTF8? line.toByteArray).bind fun text => (Json.read? text).bind Record.message

/-- The byte of a line feed stands for a line feed and nothing else. -/
theorem lineFeed_notMem_utf8EncodeChar {c : Char} (h : c ≠ '\n') :
    lineFeed ∉ String.utf8EncodeChar c := by
  have hbyte : ∀ n, lineFeed = UInt8.ofNat n → n % 256 = 10 := by
    intro n hn
    have hnat := congrArg UInt8.toNat hn
    rw [UInt8.toNat_ofNat'] at hnat
    exact hnat.symm
  have hc : c.val.toNat ≠ 10 := by
    intro hval
    exact h (Char.ext (UInt32.toNat_inj.mp hval))
  intro hmem
  rw [String.utf8EncodeChar] at hmem
  split at hmem
  · have hn := hbyte _ (List.mem_singleton.mp hmem)
    omega
  · repeat' split at hmem
    -- The bytes of all other characters have their highest bit set.
    all_goals
      simp only [List.mem_cons, List.not_mem_nil, or_false] at hmem
    · rcases hmem with hn | hn
      all_goals
        have hn := hbyte _ hn
        omega
    · rcases hmem with hn | hn | hn
      all_goals
        have hn := hbyte _ hn
        omega
    · rcases hmem with hn | hn | hn | hn
      all_goals
        have hn := hbyte _ hn
        omega

/-- A text without a line feed has no byte of one, since all bytes of longer characters are high. -/
theorem lineFeed_notMem_flatMap {cs : List Char} (h : '\n' ∉ cs) :
    lineFeed ∉ cs.flatMap String.utf8EncodeChar := by
  intro hmem
  obtain ⟨c, hc, hbyte⟩ := List.mem_flatMap.mp hmem
  exact lineFeed_notMem_utf8EncodeChar (ne_of_mem_of_not_mem hc h) hbyte

/-- JSON has line feeds escaped, so there is none inside a line. -/
theorem lineFeed_notMem_body (m : Message) : lineFeed ∉ body m :=
  lineFeed_notMem_flatMap (Json.newline_notMem_render (Record.plain_jsonOfMessage m))

/-- The bytes of a text are read back as this text. -/
theorem fromUTF8?_flatMap (cs : List Char) :
    String.fromUTF8? (cs.flatMap String.utf8EncodeChar).toByteArray = some (String.ofList cs) := by
  have hvalid : (cs.flatMap String.utf8EncodeChar).toByteArray.IsValidUTF8 := ⟨cs, rfl⟩
  rw [String.fromUTF8?, dif_pos hvalid]
  rfl

/-- A message is decoded from its line. -/
theorem message?_body (m : Message) : message? (body m) = some m := by
  rw [message?, body, fromUTF8?_flatMap]
  exact Record.read?_compact_jsonOfMessage m

/-- Lines that each end in a line feed are told apart by it. -/
theorem splitOn_flatMap {lines : List (List UInt8)} (h : ∀ line ∈ lines, lineFeed ∉ line) :
    (lines.flatMap (· ++ [lineFeed])).splitOn lineFeed = lines ++ [[]] := by
  have hjoin : lines.flatMap (· ++ [lineFeed]) = [lineFeed].intercalate (lines ++ [[]]) := by
    induction lines with
    | nil => rfl
    | cons line lines ih =>
      have ih := ih fun line' hline' => h line' (List.mem_cons_of_mem line hline')
      rw [List.flatMap_cons, ih]
      cases lines <;> simp [List.intercalate]
  rw [hjoin]
  apply List.splitOn_intercalate
  · intro line hline
    rcases List.mem_append.mp hline with hmem | hlast
    · exact h line hmem
    · rw [List.mem_singleton.mp hlast]
      exact List.not_mem_nil
  · simp

/-! ## The sink -/

/-- The sink never asks for a batch to be cancelled. -/
theorem cancels_send (s : Preview) (d : Delivery) : (Sink.send s d).cancels = false :=
  rfl

/-- So a batch that is not cancelled from outside is not cancelled. -/
theorem live_of_schedule {run r : Run Preview} {acts : List Act} (path : Run.Schedule run acts r)
    (inside : .cancel ∉ acts) (live : run.world.cancelled = false) : r.world.cancelled = false := by
  induction path with
  | refl => exact live
  | @step acts act r r' _ next ih =>
    rw [List.mem_append, List.mem_singleton, not_or] at inside
    have hlive := ih inside.1
    cases next with
    | take room made waits =>
      obtain ⟨instant, message, desk, -, -, rfl⟩ := Run.take_eq_running made
      exact hlive
    | send first rest waits live =>
      rw [Run.start_of_live live]
      exact cancels_send r.world.sink (r.call first).delivery
    | drop first rest waits cancelled =>
      rw [hlive] at cancelled
      cases cancelled
    | finish before o after flies => exact hlive
    | cancel => exact absurd rfl inside.2

end Preview

/-! ## Batches -/

/-- A batch of `count` messages, begun in this world, has shown them all. -/
structure Previewed (template : CompiledTemplate) (count : Nat) (world : World Preview)
    (verdict : Verdict) (left : World Preview) : Prop where
  succeeded : ∃ result, verdict = .done result ∧ result.requested = count ∧
    result.isCompleteSuccess = true
  /-- The output is a line for each message, and each line shows the message for its index, which is
  made for a reading of the clock and for identifiers of its own. -/
  output : ∃ lines : List (List UInt8), lines.length = count ∧
    left.sink.output = lines.flatMap (· ++ [Preview.lineFeed]) ∧
    left.sink.output.splitOn Preview.lineFeed = lines ++ [[]] ∧
    ∀ i, 1 ≤ i → i ≤ count → ∃ line instant message, lines[i - 1]? = some line ∧
      world.clock.reading (world.clock.reads + (i - 1)) = some instant ∧
      (template.materializeIn (.make i instant false)
        (world.supply.skip ((i - 1) * template.draws))).1 = .ok message ∧
      Preview.message? line = some message

/-- Among calls in a row, the one for an index stands at its place. -/
theorem exists_call_of_indices {cs : List Call} {n i : Nat}
    (indices : cs.map Call.index = List.range' 1 n) (hpos : 1 ≤ i) (hle : i ≤ n) :
    ∃ c, cs[i - 1]? = some c ∧ c.index = i := by
  have hindex : (cs.map Call.index)[i - 1]? = some i := by
    rw [indices, List.getElem?_range' (by omega)]
    congr 1
    omega
  rw [List.getElem?_map] at hindex
  exact Option.map_eq_some_iff.mp hindex

/-- Whatever the schedule, an unlimited preview of a batch that is not cancelled has a line for
every message. -/
theorem previewed_of_schedule {concurrency : Nat} {request : Request} {template : CompiledTemplate}
    {world : World Preview} {last : Run Preview} {acts : List Act}
    (accepted : start concurrency request world =
      .ok (.begin request template (max 1 concurrency) world))
    (empty : world.sink.output = []) (unlimited : world.sink.room = none)
    (live : world.cancelled = false) (inside : .cancel ∉ acts)
    (path : Run.Schedule (.begin request template (max 1 concurrency) world) acts last)
    (ended : last.isOver = true) :
    Previewed template request.count world (Run.Ending.complete last).report.1.verdict
      last.world := by
  have hlength := Run.length_calls_of_start accepted path ended
    (Preview.live_of_schedule path inside live)
  have hindices := (Run.follows_of_schedule accepted path).index_calls path
  rw [hlength] at hindices
  have hbegin : (Run.begin request template (max 1 concurrency) world).world.sink.output = [] := empty
  have hroom : (Run.begin request template (max 1 concurrency) world).world.sink.room = none :=
    unlimited
  have takes := Preview.takes_of_served path.served
  constructor
  case succeeded =>
    obtain ⟨-, -, result, hverdict, accounts⟩ := Run.accounts_of_schedule accepted path ended
    refine ⟨result, hverdict, accounts.requested_eq, accounts.complete_iff.mpr ?_⟩
    intro i hpos hle
    obtain ⟨c, hc, hindex⟩ := exists_call_of_indices hindices hpos hle
    exact ⟨c, List.mem_of_getElem? hc, hindex,
      (Preview.result_of_served path.served hc).1 (Preview.fits_of_room_eq_none hroom)⟩
  case output =>
    let lines := (calls acts).map fun c => Preview.body c.delivery.message
    -- Each line fits, so that all of them are in the output.
    have houtput : last.world.sink.output = lines.flatMap (· ++ [Preview.lineFeed]) := by
      rw [takes.output_eq, hbegin, List.nil_append, Preview.fitting, hroom, List.flatMap_map]
      exact congrArg (List.flatMap · (calls acts)) (funext fun c => Preview.line_eq_body _)
    refine ⟨lines, by rw [List.length_map, hlength], houtput, ?_, ?_⟩
    · rw [houtput]
      apply Preview.splitOn_flatMap
      intro line hline
      obtain ⟨c, -, rfl⟩ := List.mem_map.mp hline
      exact Preview.lineFeed_notMem_body c.delivery.message
    · intro i hpos hle
      obtain ⟨c, hc, rfl⟩ := exists_call_of_indices hindices hpos hle
      obtain ⟨instant, desk, hreading, hmade⟩ :=
        Run.materializeIn_of_mem_calls path (List.mem_of_getElem? hc)
      refine ⟨Preview.body c.delivery.message, instant, c.delivery.message, ?_, hreading,
        congrArg Prod.fst hmade, Preview.message?_body _⟩
      rw [List.getElem?_map, hc]
      rfl

/-- Whatever texts the messages of a template in order hold, a preview of any number of them at any
concurrency succeeds and shows them line by line, as long as the clock goes on and it is not
cancelled: on every schedule, each of which comes to its end, and so on that of the sink itself,
which answers at once. -/
theorem previewed_of_validate {concurrency : Nat} {request : Request} {template : CompiledTemplate}
    {world : World Preview}
    (compiled : CompiledTemplate.compile request.template = .ok template)
    (valid : template.validate = .ok ()) (positive : 1 ≤ request.count)
    (topic : Text.trim request.topic ≠ "") (inRange : world.clock.InRange request.count)
    (empty : world.sink.output = []) (unlimited : world.sink.room = none)
    (live : world.cancelled = false) :
    (∃ run, start concurrency request world = .ok run ∧ run.Terminates ∧
        ∀ acts last, .cancel ∉ acts → Run.Schedule run acts last → last.isOver = true →
          Previewed template request.count world (Run.Ending.complete last).report.1.verdict
            last.world) ∧
      Previewed template request.count world (dispatch concurrency request world).1.verdict
        (dispatch concurrency request world).2 := by
  have haccept : request.accept = .ok template := by
    have hrequest : request.validate = .ok () := by
      rw [Request.validate, if_neg (by omega), if_neg topic]
    exact Request.accept_eq_ok_iff.mpr ⟨hrequest, compiled, valid⟩
  have accepted := Run.start_of_accept haccept concurrency world
  have hschedule : ∀ acts last, .cancel ∉ acts →
      Run.Schedule (.begin request template (max 1 concurrency) world) acts last →
        last.isOver = true → Previewed template request.count world
          (Run.Ending.complete last).report.1.verdict last.world :=
    fun acts last inside path ended =>
      previewed_of_schedule accepted empty unlimited live inside path ended
  refine ⟨⟨_, accepted, Run.terminates_of_start inRange accepted, hschedule⟩, ?_⟩
  obtain ⟨acts, last, inside, -, path, ended, hend⟩ := exists_complete_of_start inRange accepted
  rw [dispatch_of_complete accepted hend]
  exact hschedule acts last inside path ended

/-- The texts hold characters that JSON escapes and others that end a line elsewhere; the key is
missing, and the value of one header is empty. -/
theorem previewed_of_control_characters :
    let template : MessageTemplate :=
      ⟨none, some "\n\"\\\x00\u2028😀", [⟨"\r\t\x1f", ""⟩, ⟨"n", "\x7bcount:02d\x7d"⟩]⟩
    let request : Request := ⟨"server", "topic", template, 3⟩
    let world : World Preview :=
      { clock := (World.rehearsal []).clock, supply := .seeded 0, sink := {} }
    ∃ compiled, CompiledTemplate.compile template = .ok compiled ∧ compiled.validate = .ok () ∧
      world.clock.InRange request.count ∧
      (∃ run, start 2 request world = .ok run ∧ run.Terminates ∧
        ∀ acts last, .cancel ∉ acts → Run.Schedule run acts last → last.isOver = true →
          Previewed compiled 3 world (Run.Ending.complete last).report.1.verdict last.world) ∧
      Previewed compiled 3 world (dispatch 2 request world).1.verdict (dispatch 2 request world).2 := by
  intro template request world
  have inRange : world.clock.InRange request.count := fun k _ => ⟨_, rfl⟩
  have hfaults : request.faults.head? = none := by decide +kernel
  rw [← Request.refusal?_accept] at hfaults
  cases haccept : request.accept with
  | error cause =>
    rw [haccept] at hfaults
    cases hfaults
  | ok compiled =>
    obtain ⟨-, hcompiled, hvalid⟩ := Request.accept_eq_ok_iff.mp haccept
    exact ⟨compiled, hcompiled, hvalid, inRange,
      previewed_of_validate hcompiled hvalid (by decide) (by decide +kernel) inRange rfl rfl rfl⟩

end Courier.Batch
