import Courier.Command.Plan
import Courier.Proofs.Batch.Preview
import Courier.Proofs.Batch.Summary

/-!
# The exit status of sending tells the truth

Sending leaves an exit status behind and, on the last line of the screen, a summary. The status is
zero just when every message was sent and delivered and the summary could be printed, and the summary
tells how many iterations met each fate; messages on the screen do not get in its way, because each
of them stays on a line of its own.
-/

namespace Courier.Command

open Batch Cluster Template

/-! ## Lines -/

/-- The bytes of a line of text with its line feed. -/
def lineBytes (text : String) : List UInt8 :=
  text.toList.flatMap String.utf8EncodeChar ++ [Preview.lineFeed]

/-- A printed line has at least the bytes of its line feed. -/
theorem lineBytes_ne_nil (text : String) : lineBytes text ≠ [] := by
  simp [lineBytes]

/-- The last line, if nothing stands behind its line feed. -/
def lastLine? (screen : List UInt8) : Option String :=
  match (screen.splitOn Preview.lineFeed).reverse with
  | [] :: line :: _ => String.fromUTF8? line.toByteArray
  | _ => none

/-- The figures in the summary. -/
def Output.figures? (o : Output) : Option Figures :=
  (lastLine? o.screen).bind fun line => Figures.read? line.toList

/-- Bytes that are made up of lines. -/
def IsLines (bytes : List UInt8) : Prop :=
  ∃ lines : List (List UInt8), (∀ line ∈ lines, Preview.lineFeed ∉ line) ∧
    bytes = lines.flatMap (· ++ [Preview.lineFeed])

/-- An empty screen is made up of no lines. -/
theorem isLines_nil : IsLines [] :=
  ⟨[], by simp, rfl⟩

/-- Lines may follow lines. -/
theorem IsLines.append {xs ys : List UInt8} (hxs : IsLines xs) (hys : IsLines ys) :
    IsLines (xs ++ ys) := by
  obtain ⟨lines, hlines, rfl⟩ := hxs
  obtain ⟨lines', hlines', rfl⟩ := hys
  refine ⟨lines ++ lines', ?_, List.flatMap_append.symm⟩
  intro line hline
  rcases List.mem_append.mp hline with hmem | hmem
  · exact hlines line hmem
  · exact hlines' line hmem

/-- The last line is found behind any other lines. -/
theorem lastLine?_append {printed : List UInt8} (lines : IsLines printed) {text : String}
    (h : '\n' ∉ text.toList) : lastLine? (printed ++ lineBytes text) = some text := by
  obtain ⟨lines, hlines, rfl⟩ := lines
  let last := text.toList.flatMap String.utf8EncodeChar
  have hlast : Preview.lineFeed ∉ last := Preview.lineFeed_notMem_flatMap h
  have hscreen : lines.flatMap (· ++ [Preview.lineFeed]) ++ lineBytes text =
      (lines ++ [last]).flatMap (· ++ [Preview.lineFeed]) := by
    rw [lineBytes, List.flatMap_append, List.flatMap_singleton]
  have hsplit : (lines.flatMap (· ++ [Preview.lineFeed]) ++ lineBytes text).splitOn
      Preview.lineFeed = lines ++ [last] ++ [[]] := by
    rw [hscreen]
    apply Preview.splitOn_flatMap
    intro line hline
    rcases List.mem_append.mp hline with hmem | hmem
    · exact hlines line hmem
    · rwa [List.mem_singleton.mp hmem]
  rw [lastLine?, hsplit, List.reverse_append, List.reverse_append]
  show String.fromUTF8? last.toByteArray = some text
  rw [Preview.fromUTF8?_flatMap, String.ofList_toList]

/-- A summary is one line. -/
theorem newline_notMem_summary (r : BatchResult) : '\n' ∉ r.summary.toList := by
  have hdigits : ∀ n, '\n' ∉ Decimal.digits n := Decimal.notMem_digits (by decide)
  rw [BatchResult.summary]
  split <;> split <;> simp [BatchResult.countText, hdigits]

/-- A line is printed as far as it fits. -/
theorem writes_printLine (screen : Preview) (text : String) :
    screen.Writes (lineBytes text) (printLine screen text) :=
  Preview.writes_writeLine screen _

/-! ## What is printed on the way -/

/-- Messages are printed when there are no clusters to send them to. -/
def Job.shown (job : Job) (cs : List Call) : List UInt8 :=
  match job.producers with
  | none => cs.flatMap Preview.lineOf
  | some _ => []

/-- Messages are printed on lines of their own. -/
theorem Job.isLines_shown (job : Job) (cs : List Call) : IsLines (job.shown cs) := by
  rw [shown]
  cases job.producers with
  | none =>
    refine ⟨cs.map fun c => Preview.body c.delivery.message, ?_, ?_⟩
    · intro line hline
      obtain ⟨c, -, rfl⟩ := List.mem_map.mp hline
      exact Preview.lineFeed_notMem_body c.delivery.message
    · rw [List.flatMap_map]
      exact congrArg (List.flatMap · cs) (funext fun c => Preview.line_eq_body _)
  | some p => exact isLines_nil

/-- On the screen calls are served as by a preview. -/
theorem served_screen {p : Preview} {cs : List Call} {d : Destination}
    (served : Served ⟨p, none⟩ cs d) : ∃ q, d = ⟨q, none⟩ ∧ Served p cs q := by
  induction served with
  | nil => exact ⟨p, rfl, .nil⟩
  | @concat cs t c _ answer ih =>
    obtain ⟨q, rfl, earlier⟩ := ih
    exact ⟨_, rfl, .concat earlier answer⟩

/-- On clusters calls are served as by their producers, and the screen stays as it is. -/
theorem served_clusters {screen : Preview} {p : Producers ClientConfig} {cs : List Call}
    {d : Destination} (served : Served ⟨screen, some p⟩ cs d) :
    ∃ q, d = ⟨screen, some q⟩ ∧ Served p cs q := by
  induction served with
  | nil => exact ⟨p, rfl, .nil⟩
  | @concat cs t c _ answer ih =>
    obtain ⟨q, rfl, earlier⟩ := ih
    exact ⟨_, rfl, .concat earlier answer⟩

/-- So the screen takes what is shown, as far as it fits. -/
theorem Job.takes_of_served {job : Job} {screen : Preview} {cs : List Call} {d : Destination}
    (served : Served (job.destination screen) cs d) : screen.Takes (job.shown cs) d.screen := by
  rw [destination] at served
  rw [shown]
  cases hproducers : job.producers with
  | none =>
    rw [hproducers] at served
    obtain ⟨q, rfl, printed⟩ := served_screen served
    exact Preview.takes_of_served printed
  | some p =>
    rw [hproducers] at served
    obtain ⟨q, rfl, -⟩ := served_clusters served
    exact .nil screen

/-! ## Plans -/

/-- What sending is planned as, if the template and the clusters load: a batch of the messages that
were asked for, which is summed up. -/
structure SendPlan (transport : Transport ClientConfig) (files : Files) (o : SendOptions)
    (job : Job) : Prop where
  loaded : MessageTemplate.load files o.templateFile = .ok job.request.template
  server_eq : job.request.server = o.server
  topic_eq : job.request.topic = o.topic
  count_eq : job.request.count = o.count
  concurrency_eq : job.concurrency = o.concurrency
  isSummedUp : job.isSummedUp = true
  /-- The messages of a dry run are printed. -/
  dry : o.dryRun = true → job.producers = none
  /-- All others go to a server that is registered and has its topic, if that was to be created; no
  producer is made yet. -/
  wet : o.dryRun = false → ∃ registry settings c,
    loadClusters files o.clusters = .ok (registry, settings) ∧ registry.get o.server = .ok c ∧
      (o.createTopic = true → (Producers.start registry settings transport).createTopic o.server
        o.topic o.partitions o.replicationFactor = .ok ()) ∧
      job.producers = some (.start registry settings transport)

/-- A success is not touched by what is done to errors. -/
theorem mapError_eq_ok_iff {ε ε' α : Type} {x : Except ε α} {f : ε → ε'} {a : α} :
    x.mapError f = .ok a ↔ x = .ok a := by
  cases x <;> simp [Except.mapError]

/-- A server is opened when the clusters load, the server is one of them and the topic, if it is to
be created, is there; no producer has been made by then. -/
theorem openServer_eq_ok_iff {transport : Transport ClientConfig} {files : Files} {o : SendOptions}
    {p : Producers ClientConfig} :
    openServer transport files o = .ok p ↔ ∃ registry settings c,
      loadClusters files o.clusters = .ok (registry, settings) ∧ registry.get o.server = .ok c ∧
        (o.createTopic = true → (Producers.start registry settings transport).createTopic o.server
          o.topic o.partitions o.replicationFactor = .ok ()) ∧
        p = .start registry settings transport := by
  simp only [openServer, bind, Except.bind, pure, Except.pure]
  cases loadClusters files o.clusters with
  | error e => simp
  | ok loaded =>
    obtain ⟨registry, settings⟩ := loaded
    dsimp only
    cases hget : registry.get o.server with
    | error e => simp [Except.mapError, hget]
    | ok c =>
      cases o.createTopic with
      | false => simp [Except.mapError, hget, eq_comm]
      | true =>
        cases hcreated : (Producers.start registry settings transport).createTopic o.server o.topic
          o.partitions o.replicationFactor with
        | error e => simp [Except.mapError, hcreated]
        | ok u => simp [Except.mapError, hget, hcreated, eq_comm]

/-- There are clusters to send to, or none are needed. -/
theorem openClusters_eq_ok_iff {transport : Transport ClientConfig} {files : Files} {o : SendOptions}
    {producers : Option (Producers ClientConfig)} :
    openClusters transport files o = .ok producers ↔
      (o.dryRun = true → producers = none) ∧
        (o.dryRun = false → ∃ p, openServer transport files o = .ok p ∧ producers = some p) := by
  rw [openClusters]
  cases o.dryRun with
  | true => simp [eq_comm]
  | false => cases openServer transport files o <;> simp [Except.map, eq_comm]

/-- Sending is planned just when the template and the clusters load. -/
theorem planOver_eq_ok_iff {transport : Transport ClientConfig} {files : Files} {o : SendOptions}
    {plan : Plan} :
    planOver transport files (.send o) = .ok plan ↔
      ∃ job, plan = .batch job ∧ SendPlan transport files o job := by
  constructor
  · intro planned
    -- The template is loaded first, then the clusters.
    obtain ⟨template, hload, planned⟩ := exists_of_bind_eq_ok planned
    obtain ⟨producers, hclusters, planned⟩ := exists_of_bind_eq_ok planned
    obtain ⟨dry, wet⟩ := openClusters_eq_ok_iff.mp hclusters
    cases planned
    refine ⟨_, rfl, mapError_eq_ok_iff.mp hload, rfl, rfl, rfl, rfl, rfl, dry, ?_⟩
    intro sends
    obtain ⟨p, hopen, rfl⟩ := wet sends
    obtain ⟨registry, settings, c, hregistry, hget, hcreated, rfl⟩ := openServer_eq_ok_iff.mp hopen
    exact ⟨registry, settings, c, hregistry, hget, hcreated, rfl⟩
  · rintro ⟨⟨⟨server, topic, template, count⟩, concurrency, producers, isSummedUp⟩, rfl, planned⟩
    obtain ⟨hload, rfl, rfl, rfl, rfl, rfl, dry, wet⟩ := planned
    have hclusters : openClusters transport files o = .ok producers := by
      rw [openClusters_eq_ok_iff]
      refine ⟨dry, ?_⟩
      intro sends
      obtain ⟨registry, settings, c, hregistry, hget, hcreated, rfl⟩ := wet sends
      have hopen := openServer_eq_ok_iff.mpr ⟨registry, settings, c, hregistry, hget, hcreated, rfl⟩
      exact ⟨_, hopen, rfl⟩
    rw [planOver, loadTemplate, mapError_eq_ok_iff.mpr hload, hclusters]
    rfl

/-! ## What sending leaves behind -/

namespace Job

/-- The batch of a job as it begins, with its events to be received. -/
def spawn (job : Job) (screen : Preview) (clock : Time.Clock) (supply : UuidSupply) :
    Broadcast Destination :=
  Batch.spawn job.concurrency job.request { clock, supply, sink := job.destination screen } .fresh

/-- By these steps a job comes to this end and leaves this behind. -/
def Leaves (job : Job) (screen : Preview) (clock : Time.Clock) (supply : UuidSupply)
    (acts : List Act) (verdict : Verdict) (output : Output) : Prop :=
  ∃ left received, Broadcast.Path (job.spawn screen clock supply) acts
      ⟨.ended verdict left, .connected [] received⟩ ∧
    output = batchOutput job.isSummedUp ⟨verdict, received⟩ left.sink.screen

/-- All that a job prints if it comes to this result: its messages, if they are printed, and the
summary. -/
def transcript (job : Job) (acts : List Act) (result : BatchResult) : List UInt8 :=
  job.shown (calls acts) ++ lineBytes result.summary

end Job

/-- What is left behind tells the truth about a job that came to this end by these steps. -/
structure Truthful (job : Job) (screen : Preview) (acts : List Act) (verdict : Verdict)
    (output : Output) : Prop where
  /-- The messages that were sent are the first ones, each of them once. -/
  indices : (calls acts).map Call.index = List.range' 1 (calls acts).length
  /-- Sending succeeds when there is a result that the screen has room for, and every message was
  sent and delivered. -/
  status_eq_zero_iff : output.status = 0 ↔
    (∃ result, verdict = .done result ∧ screen.Fits (job.transcript acts result).length) ∧
      ∀ i, 1 ≤ i → i ≤ job.request.count → fateOf (calls acts) i = .succeeded
  /-- It breaks off when there is a result that the screen has no room for. -/
  status_eq_broken_iff : output.status = brokenStatus ↔
    ∃ result, verdict = .done result ∧ ¬screen.Fits (job.transcript acts result).length
  /-- There is one other way to fail. -/
  status_eq_one : output.status ≠ 0 → output.status ≠ brokenStatus → output.status = 1
  /-- A request is refused when it or its template has a fault. Then sending fails, and neither a
  message nor a summary is printed. -/
  refused_iff : ∀ cause, verdict = .refused cause ↔ job.request.faults.head? = some cause
  refused : ∀ cause, verdict = .refused cause →
    acts = [] ∧ output.status = 1 ∧ output.screen = screen.output
  /-- A result counts the iterations that met each fate. -/
  figures : ∀ result, verdict = .done result → result.figures =
    ⟨job.request.count, fated job.request.count (calls acts) .succeeded,
      fated job.request.count (calls acts) .failed, fated job.request.count (calls acts) .unsent⟩
  total : ∀ result, verdict = .done result →
    result.succeeded + result.failed + result.cancelled = result.requested
  /-- The summary comes last on the screen, as far as there is room. -/
  printed : ∀ result, verdict = .done result →
    output.screen = screen.output ++ screen.fitting (job.transcript acts result)
  /-- Its figures can be read from the last line. -/
  summary : ∀ result, verdict = .done result → IsLines screen.output →
    screen.Fits (job.transcript acts result).length →
      lastLine? output.screen = some result.summary ∧ output.figures? = some result.figures
  /-- A result with other figures would not be summed up like this. -/
  unambiguous : ∀ result other : BatchResult,
    other.summary = result.summary → other.figures = result.figures

/-- A batch that has run falls short when something failed or was not sent. -/
theorem shortfall?_eq_none_iff {r : BatchResult} :
    shortfall? r = none ↔ r.failed = 0 ∧ r.cancelled = 0 := by
  rw [shortfall?, BatchResult.isCancelled]
  split
  · simp
    omega
  · simp
    omega

/-- Equal summaries have equal figures, since these are read from them. -/
theorem figures_eq_of_summary_eq {result other : BatchResult} (h : other.summary = result.summary) :
    other.figures = result.figures := by
  have hread := BatchResult.read?_summary other
  rw [h, BatchResult.read?_summary] at hread
  exact (Option.some_inj.mp hread).symm

/-- What is left behind without a result. -/
theorem Truthful.of_failure {job : Job} {screen : Preview} {acts : List Act} {verdict : Verdict}
    {output : Output} (indices : (calls acts).map Call.index = List.range' 1 (calls acts).length)
    (unfinished : ∀ result, verdict ≠ .done result) (failed : output.status = 1)
    (refused_iff : ∀ cause, verdict = .refused cause ↔ job.request.faults.head? = some cause)
    (silent : ∀ cause, verdict = .refused cause → acts = [] ∧ output.screen = screen.output) :
    Truthful job screen acts verdict output where
  indices := indices
  status_eq_zero_iff := by simp [failed, unfinished]
  status_eq_broken_iff := by simp [failed, unfinished, brokenStatus]
  status_eq_one _ _ := failed
  refused_iff := refused_iff
  refused cause hcause := ⟨(silent cause hcause).1, failed, (silent cause hcause).2⟩
  figures result hresult := absurd hresult (unfinished result)
  total result hresult := absurd hresult (unfinished result)
  printed result hresult := absurd hresult (unfinished result)
  summary result hresult := absurd hresult (unfinished result)
  unambiguous _ _ := figures_eq_of_summary_eq

/-- The end of a batch that is summed up: the summary is printed as far as it fits, and the status
hangs on whether it does. -/
theorem batchOutput_of_done (result : BatchResult) (events : List Event) (screen : Preview) :
    ∃ last, screen.Takes (lineBytes result.summary) last ∧
      (batchOutput true ⟨.done result, events⟩ screen).screen = last.output ∧
      (screen.Fits (lineBytes result.summary).length →
        (batchOutput true ⟨.done result, events⟩ screen).status =
          if (shortfall? result).isSome then 1 else 0) ∧
      (¬screen.Fits (lineBytes result.summary).length →
        (batchOutput true ⟨.done result, events⟩ screen).status = brokenStatus) := by
  obtain ⟨takes, hok, herror⟩ := writes_printLine screen result.summary
  refine ⟨_, takes, ?_⟩
  simp only [batchOutput, if_true]
  cases hprint : printLine screen result.summary with
  | mk written last =>
    rw [hprint] at hok herror
    cases written with
    | error e =>
      refine ⟨rfl, ?_, fun _ => rfl⟩
      intro fits
      cases hok fits
    | ok u =>
      refine ⟨rfl, fun _ => rfl, ?_⟩
      intro full
      cases herror full

/-- What is left behind with a result. -/
theorem truthful_of_done {job : Job} {screen left : Preview} {acts : List Act}
    {received : List Event} {result : BatchResult}
    (hresult : result = .ofCalls job.request.count (calls acts))
    (faultless : job.request.faults = [])
    (indices : (calls acts).map Call.index = List.range' 1 (calls acts).length)
    (length_le : (calls acts).length ≤ job.request.count)
    (takes : screen.Takes (job.shown (calls acts)) left) :
    Truthful job screen acts (.done result) (batchOutput true ⟨.done result, received⟩ left) := by
  have hfigures := BatchResult.figures_ofCalls indices length_le
  rw [← hresult] at hfigures
  obtain ⟨hrequested, hsucceeded, hfailed, hcancelled⟩ := Figures.mk.inj hfigures
  obtain ⟨last, takes', hscreen, hfits, hfull⟩ := batchOutput_of_done result received left
  generalize batchOutput true ⟨.done result, received⟩ left = output at hscreen hfits hfull ⊢
  have hprinted : output.screen =
      screen.output ++ screen.fitting (job.transcript acts result) :=
    hscreen.trans (takes.append takes').output_eq
  -- The messages and the summary fit together just when the summary fits after the messages.
  have hroom : screen.Fits (job.transcript acts result).length ↔
      left.Fits (lineBytes result.summary).length :=
    takes.fits_append_iff_of_ne_nil (lineBytes_ne_nil result.summary)
  rw [← hroom] at hfits hfull
  have hdone : (∃ r, Verdict.done result = .done r ∧
      screen.Fits (job.transcript acts r).length) ↔
        screen.Fits (job.transcript acts result).length := by
    simp
  have hshort : shortfall? result = none ↔
      ∀ i, 1 ≤ i → i ≤ job.request.count → fateOf (calls acts) i = .succeeded := by
    rw [shortfall?_eq_none_iff, hfailed, hcancelled, fated_eq_zero_iff]
  constructor
  case indices => exact indices
  case status_eq_zero_iff =>
    rw [hdone, ← hshort]
    by_cases fits : screen.Fits (job.transcript acts result).length
    · rw [hfits fits]
      cases shortfall? result <;> simp [fits]
    · rw [hfull fits]
      simp [fits, brokenStatus]
  case status_eq_broken_iff =>
    have hfull_iff : (∃ r, Verdict.done result = .done r ∧
        ¬screen.Fits (job.transcript acts r).length) ↔
          ¬screen.Fits (job.transcript acts result).length := by
      simp
    rw [hfull_iff]
    refine ⟨?_, hfull⟩
    intro broken fits
    rw [hfits fits] at broken
    cases hsome : (shortfall? result).isSome <;> simp [hsome, brokenStatus] at broken
  case status_eq_one =>
    intro failed unbroken
    by_cases fits : screen.Fits (job.transcript acts result).length
    · rw [hfits fits] at failed ⊢
      cases hsome : (shortfall? result).isSome with
      | true => rfl
      | false => simp [hsome] at failed
    · exact absurd (hfull fits) unbroken
  case refused_iff => simp [faultless]
  case refused => simp
  case figures =>
    rintro _ ⟨⟩
    exact hfigures
  case total =>
    rintro _ ⟨⟩
    rw [hsucceeded, hfailed, hcancelled, fated_total]
    exact hrequested.symm
  case printed =>
    rintro _ ⟨⟩
    exact hprinted
  case summary =>
    rintro _ ⟨⟩ lines fits
    have hall : output.screen =
        screen.output ++ job.shown (calls acts) ++ lineBytes result.summary := by
      rw [hprinted, Preview.fitting_of_fits fits, Job.transcript, List.append_assoc]
    have hlast : lastLine? output.screen = some result.summary := by
      rw [hall]
      exact lastLine?_append (lines.append (job.isLines_shown _)) (newline_notMem_summary result)
    refine ⟨hlast, ?_⟩
    rw [Output.figures?, hlast, Option.bind_some, BatchResult.read?_summary]
  case unambiguous => exact fun _ _ => figures_eq_of_summary_eq

/-- However a job ends, what it leaves behind tells the truth. -/
theorem truthful_of_conclusion {job : Job} {screen : Preview} {world left : World Destination}
    (sink : world.sink = job.destination screen) {acts : List Act} {verdict : Verdict}
    {received : List Event} (ended : Conclusion job.request world acts verdict left) :
    Truthful job screen acts verdict
      (batchOutput true ⟨verdict, received⟩ left.sink.screen) := by
  have hindices := ended.indices
  have hserved := ended.served
  rw [sink] at hserved
  cases ended with
  | @refused cause fault =>
    have hscreen : world.sink.screen.output = screen.output := by
      rw [sink]
      rfl
    exact .of_failure hindices (by simp) rfl (by simp [fault]) fun _ _ => ⟨rfl, hscreen⟩
  | interrupted faultless =>
    exact .of_failure hindices (by simp) rfl (by simp [faultless]) (by simp)
  | done faultless served indices length_le =>
    exact truthful_of_done rfl faultless indices length_le (Job.takes_of_served hserved)

/-- Sending tells the truth about itself, in whatever order the messages are answered, whatever the
answers are and whenever it is cancelled. -/
structure Job.Honest (job : Job) (screen : Preview) (clock : Time.Clock) (supply : UuidSupply) :
    Prop where
  truthful : ∀ acts verdict output, job.Leaves screen clock supply acts verdict output →
    Truthful job screen acts verdict output
  /-- A screen that takes everything does not get in the way of success. -/
  unlimited : screen.room = none → ∀ acts verdict output,
    job.Leaves screen clock supply acts verdict output →
      (output.status = 0 ↔ (∃ result, verdict = .done result) ∧
        ∀ i, 1 ≤ i → i ≤ job.request.count → fateOf (calls acts) i = .succeeded)
  /-- Messages that are printed fail when the screen has no room for them and those before. -/
  dry : job.producers = none → ∀ acts verdict output,
    job.Leaves screen clock supply acts verdict output → ∀ (k : Nat) c, (calls acts)[k]? = some c →
      (c.result = .ok () ↔
        screen.Fits (((calls acts).take (k + 1)).flatMap Preview.lineOf).length)
  /-- Messages to clusters meet with what their producers answer. -/
  wet : ∀ p, job.producers = some p → ∀ acts verdict output,
    job.Leaves screen clock supply acts verdict output → ∃ q, Served p (calls acts) q
  /-- There is a result unless the request is refused, as long as the clock goes on. -/
  concluded : clock.InRange job.request.count → ∀ acts verdict output,
    job.Leaves screen clock supply acts verdict output → verdict ≠ .clockOutOfRange
  /-- From wherever it stands it comes to an end, if the events are received. -/
  ends : clock.InRange job.request.count → ∀ acts stage queue received,
    Broadcast.Path (job.spawn screen clock supply) acts ⟨stage, .connected queue received⟩ →
      ∃ acts' verdict output, .cancel ∉ acts' ∧
        job.Leaves screen clock supply (acts ++ acts') verdict output
  /-- With answers that come at once, this is what is left behind. -/
  runs : clock.InRange job.request.count → ∃ acts verdict, .cancel ∉ acts ∧
    job.Leaves screen clock supply acts verdict (job.run screen clock supply)

/-- Answers that come at once make no difference to what a job leaves behind. -/
theorem Job.run_eq (job : Job) (screen : Preview) (clock : Time.Clock) (supply : UuidSupply) :
    job.run screen clock supply =
      let (report, world) :=
        dispatch job.concurrency job.request { clock, supply, sink := job.destination screen }
      batchOutput job.isSummedUp report world.sink.screen := by
  rw [Job.run, Job.start, dispatch]
  cases Batch.start job.concurrency job.request
      ({ clock, supply, sink := job.destination screen } : World Destination) <;> rfl

/-- A job that sums up is honest on any screen, for any clock and supply. -/
theorem Job.honest_of_isSummedUp {job : Job} (summedUp : job.isSummedUp = true) (screen : Preview)
    (clock : Time.Clock) (supply : UuidSupply) : job.Honest screen clock supply := by
  have htruthful : ∀ acts verdict output, job.Leaves screen clock supply acts verdict output →
      Truthful job screen acts verdict output := by
    rintro acts verdict output ⟨left, received, path, rfl⟩
    rw [summedUp]
    exact truthful_of_conclusion rfl (conclusion_of_path Line.carries_fresh path)
  constructor
  case truthful => exact htruthful
  case unlimited =>
    intro unlimited acts verdict output leaves
    rw [(htruthful acts verdict output leaves).status_eq_zero_iff]
    simp [Preview.fits_of_room_eq_none unlimited]
  case dry =>
    rintro dry acts verdict output ⟨left, received, path, rfl⟩ k c hc
    have served := (conclusion_of_path Line.carries_fresh path).served
    rw [destination, dry] at served
    -- What a dry run has sent was printed, so that the screen alone decides.
    obtain ⟨q, -, printed⟩ := served_screen served
    exact Preview.result_eq_ok_iff_of_served printed hc
  case wet =>
    rintro p wet acts verdict output ⟨left, received, path, rfl⟩
    have served := (conclusion_of_path Line.carries_fresh path).served
    rw [destination, wet] at served
    obtain ⟨q, -, answered⟩ := served_clusters served
    exact ⟨q, answered⟩
  case concluded =>
    rintro inRange acts verdict output ⟨left, received, path, rfl⟩
    exact ne_clockOutOfRange_of_path inRange Line.carries_fresh path
  case ends =>
    intro inRange acts stage queue received path
    obtain ⟨acts', verdict, left, line, inside, drains, path'⟩ :=
      Broadcast.exists_ended_of_path inRange Line.carries_fresh path
    cases drains
    exact ⟨acts', verdict, _, inside, left, _, path.trans path', rfl⟩
  case runs =>
    intro inRange
    let world : World Destination := { clock, supply, sink := job.destination screen }
    have hrange : world.clock.InRange job.request.count := inRange
    obtain ⟨acts, inside, path⟩ := Broadcast.exists_path_of_dispatch job.concurrency hrange
    rw [Job.run_eq]
    exact ⟨acts, _, inside, _, _, path, rfl⟩

/-- Whatever the transport, the screen, the number of messages and the concurrency: if the template
and the clusters load, the program carries out what was planned, and its status and its summary tell
the truth; and if they do not, it fails and prints nothing. -/
theorem honest_of_send (transport : Transport ClientConfig) (screen : Preview) {env : Environment}
    (files : Files) (clock : Time.Clock) (supply : UuidSupply) {words : List String}
    {o : SendOptions} (asked : read env words = .ok (.send o)) :
    (∀ job, SendPlan transport files o job → job.Honest screen clock supply ∧
      performOver transport screen env files clock supply words = job.run screen clock supply) ∧
    ((∀ job, ¬SendPlan transport files o job) →
      (performOver transport screen env files clock supply words).status = 1 ∧
        (performOver transport screen env files clock supply words).screen = screen.output) := by
  rw [performOver, asked]
  dsimp only
  constructor
  · intro job planned
    rw [planOver_eq_ok_iff.mpr ⟨job, rfl, planned⟩]
    exact ⟨job.honest_of_isSummedUp planned.isSummedUp screen clock supply, rfl⟩
  · intro unplanned
    cases hplan : planOver transport files (.send o) with
    | error failure => exact ⟨rfl, rfl⟩
    | ok plan =>
      obtain ⟨job, -, planned⟩ := planOver_eq_ok_iff.mp hplan
      exact absurd planned (unplanned job)

/-- Of three messages the first is lost on the way and the others are delivered. On a screen with no
room for the summary this cannot be told. -/
theorem honest_of_lost_message :
    let transport : Transport ClientConfig :=
      { create := fun _ config => .ok config
        deliver := fun asked _ _ _ => if asked = 0 then .error ⟨"lost"⟩ else .ok ()
        administer := fun _ => .error ⟨"no administrator"⟩ }
    let files : Files := fun name =>
      if name = "empty.json" then .ok "\x7b\x7d" else .error .notFound
    let words := ["send", "--server", "localhost_9092", "--topic", "topic", "--template",
      "empty.json", "--count", "3", "--bootstrap-servers", "localhost:9092"]
    let world := World.rehearsal []
    let output (screen : Preview) : Output :=
      performOver transport screen {} files world.clock world.supply words
    ∃ o job, read {} words = .ok (.send o) ∧ SendPlan transport files o job ∧
      (∀ screen, job.Honest screen world.clock world.supply ∧
        output screen = job.run screen world.clock world.supply) ∧
      (output {}).status = 1 ∧ (output {}).figures? = some ⟨3, 2, 1, 0⟩ ∧
      (output { room := some 10 }).status = brokenStatus := by
  intro transport files words world output
  let registry : Registry := ⟨Table.empty.insert "localhost_9092"
    ⟨"localhost_9092", [⟨"localhost", 9092⟩], .empty⟩⟩
  let o : SendOptions :=
    { server := "localhost_9092", topic := "topic", templateFile := "empty.json", count := 3
      concurrency := 1, createTopic := false, partitions := 1, replicationFactor := 1
      dryRun := false, clusters := ⟨none, ["localhost:9092"]⟩ }
  have asked : read {} words = .ok (.send o) := by decide +kernel
  have hload : MessageTemplate.load files "empty.json" = .ok {} := by decide +kernel
  have hregistry : ({} : Settings).registry ["localhost:9092"] = .ok registry := by decide +kernel
  have hclusters : loadClusters files o.clusters = .ok (registry, {}) := by
    simp only [loadClusters, o, hregistry, bind, Except.bind, Except.mapError, pure, Except.pure]
  have planned : SendPlan transport files o
      ⟨⟨"localhost_9092", "topic", {}, 3⟩, 1, some (.start registry {} transport), true⟩ :=
    { loaded := hload
      server_eq := rfl
      topic_eq := rfl
      count_eq := rfl
      concurrency_eq := rfl
      isSummedUp := rfl
      dry := by simp [o]
      wet := fun _ => ⟨registry, {}, _, hclusters, rfl, by simp [o], rfl⟩ }
  have honest := fun screen : Preview =>
    (honest_of_send transport screen files world.clock world.supply asked).1 _ planned
  refine ⟨o, _, asked, planned, honest, ?_⟩
  have houtput : ∀ screen, output screen = _ := fun screen => (honest screen).2
  rw [houtput, houtput]
  refine ⟨?_, ?_, ?_⟩
  all_goals decide +kernel

end Courier.Command
