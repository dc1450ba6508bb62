import Courier.Batch.Dispatch
import Courier.Cluster.Producers
import Courier.Command.Basic
import Courier.Settings
import Courier.Template.Load

/-!
# Doing what a command asks for

A command leads to lines that are printed, or to a batch whose messages go to the screen or to the
clusters. The exit status is zero if nothing went wrong: sending also goes wrong when a message
failed or was not sent, though not in a preview. The screen may be full, or nobody may read it any
more. A message that cannot be printed fails like any other, while a line that the program has to say
itself breaks it off.
-/

namespace Courier.Command

open Batch Cluster Template

/-- What the program leaves behind. -/
structure Output where
  status : Nat
  /-- What is printed, in UTF-8. -/
  screen : List UInt8 := []
  /-- The lines about what went wrong, on a stream of their own that takes them all. -/
  notices : List String := []
deriving DecidableEq, Repr

/-- Why a command fails. -/
inductive Failure where
  | template (file : String) (cause : TemplateError)
  | settings (cause : SettingsError)
  | clusters (cause : RegistryError)
  | server (id : String) (cause : RegistryError)
  | topic (name : String) (cause : ClusterError)
  | request (cause : DispatchError)
  /-- A batch broke off for want of a time. -/
  | interrupted
  | failed (result : BatchResult)
  | cancelled (result : BatchResult)
deriving DecidableEq, Repr

namespace Failure

/-- The wordings of the failure and of what caused it, from the outside in. -/
def chain : Failure → List String
  | .template file cause =>
    ("Failed to load message template from " ++ Text.quoted file) :: cause.chain
  | .settings cause => cause.chain
  | .clusters cause => Settings.registryChain cause
  | .server id cause => ["Cannot send to server '" ++ id ++ "'", cause.message]
  | .topic name cause => ("Failed to create topic '" ++ name ++ "'") :: cause.chain
  | .request cause => cause.chain
  | .interrupted => ["Dispatch task failed"]
  | .failed result =>
    [BatchResult.countText result.failed ++ " of " ++ BatchResult.countText result.requested ++
      " messages failed"]
  | .cancelled result =>
    ["Batch cancelled, " ++ BatchResult.countText result.cancelled ++ " messages not sent"]

/-- The line about a failure. -/
def notice (f : Failure) : String :=
  "Error: " ++ String.intercalate ": " f.chain

end Failure

/-! ## Printing -/

/-- Prints a line of text. -/
def printLine (screen : Preview) (text : String) : Except String Unit × Preview :=
  screen.writeLine (text.toList.flatMap String.utf8EncodeChar)

/-- Prints lines until one cannot be printed. -/
def printLines (screen : Preview) : List String → Except String Unit × Preview
  | [] => (.ok (), screen)
  | text :: rest =>
    match printLine screen text with
    | (.error e, screen) => (.error e, screen)
    | (.ok (), screen) => printLines screen rest

/-- What a failed command leaves behind. -/
def Failure.output (f : Failure) (screen : Preview) : Output :=
  { status := 1, screen := screen.output, notices := [f.notice] }

/-- The status of a program that breaks off. -/
def brokenStatus : Nat := 101

/-- What is left behind by a program that breaks off at a line that it cannot print. -/
def brokenOutput (screen : Preview) (notices : List String) (fault : String) : Output :=
  { status := brokenStatus
    screen := screen.output
    notices := notices ++ ["failed printing to stdout: " ++ fault] }

/-! ## Destinations -/

/-- Where messages go: to clusters if there are any, and else to the screen. -/
structure Destination where
  screen : Preview
  producers : Option (Producers ClientConfig)

namespace Destination

/-- Takes a message. -/
def send (s : Destination) (d : Delivery) : Receipt Destination :=
  match s.producers with
  | none =>
    let receipt := s.screen.send d
    { receipt with sink := { s with screen := receipt.sink } }
  | some p =>
    let receipt := p.send d
    { receipt with sink := { s with producers := some receipt.sink } }

instance : Sink Destination where
  send := send

end Destination

/-! ## Plans -/

/-- A batch that a command asks for. -/
structure Job where
  request : Request
  concurrency : Nat := 1
  /-- The clusters that the messages go to; absent when they are printed. -/
  producers : Option (Producers ClientConfig) := none
  /-- The result is summed up and has to be a complete success. -/
  isSummedUp : Bool

/-- What a command comes to. -/
inductive Plan where
  | lines (texts : List String)
  | batch (job : Job)

/-- The clusters to use and how to send to them. -/
def loadClusters (files : Files) (choice : ClusterChoice) :
    Except Failure (Registry × ProducerSettings) := do
  let settings ← match choice.settingsFile with
    | some file => (Settings.load files file).mapError .settings
    | none => .ok {}
  let registry ← (settings.registry choice.servers).mapError .clusters
  return (registry, settings.producer)

/-- Where sending leads to: over a transport to a server that is registered, with its topic created
if asked for. -/
def openServer (transport : Transport ClientConfig) (files : Files) (o : SendOptions) :
    Except Failure (Producers ClientConfig) := do
  let (registry, settings) ← loadClusters files o.clusters
  -- An unknown server is reported before a topic is created on it.
  let _ ← (registry.get o.server).mapError (.server o.server)
  let producers := Producers.start registry settings transport
  if o.createTopic then
    (producers.createTopic o.server o.topic o.partitions o.replicationFactor).mapError
      (.topic o.topic)
  return producers

/-- The clusters that the messages are sent to; a dry run needs none. -/
def openClusters (transport : Transport ClientConfig) (files : Files) (o : SendOptions) :
    Except Failure (Option (Producers ClientConfig)) :=
  if o.dryRun then .ok none else (openServer transport files o).map some

/-- The template in a file. -/
def loadTemplate (files : Files) (file : String) : Except Failure MessageTemplate :=
  (MessageTemplate.load files file).mapError (.template file)

/-- The line about a cluster in a list. -/
def clusterLine (id : String) (c : Cluster) : String :=
  id ++ "\t" ++ c.bootstrapServers

/-- Makes the plan for a command, which reads the files that it needs. Clusters are reached over this
transport. -/
def planOver (transport : Transport ClientConfig) (files : Files) : Command → Except Failure Plan
  | .send o => do
    let template ← loadTemplate files o.templateFile
    let producers ← openClusters transport files o
    return .batch {
      request := { server := o.server, topic := o.topic, template, count := o.count }
      concurrency := o.concurrency
      producers
      isSummedUp := true }
  | .preview file count => do
    let template ← loadTemplate files file
    return .batch {
      request := { server := "preview", topic := "preview", template, count }
      isSummedUp := false }
  | .clusters choice => do
    let (registry, _) ← loadClusters files choice
    return .lines (registry.clusters.entries.map fun (id, c) => clusterLine id c)

/-- The files that a command may need. -/
def fileNames : Command → List String
  | .send o => o.templateFile :: if o.dryRun then [] else o.clusters.settingsFile.toList
  | .preview file _ => [file]
  | .clusters choice => choice.settingsFile.toList

/-! ## Batches -/

/-- The lines about messages that failed, in the order in which that became known. -/
def messageNotices (events : List Event) : List String :=
  events.filterMap fun
    | .outcome o =>
      o.error.map fun e => "Message " ++ BatchResult.countText o.index ++ " failed: " ++ e.reason
    | _ => none

/-- Why a batch that has run is no complete success. -/
def shortfall? (r : BatchResult) : Option Failure :=
  if 0 < r.failed then some (.failed r) else if r.isCancelled then some (.cancelled r) else none

/-- What a batch leaves behind, by the report on it and by the screen with what was printed on the
way. -/
def batchOutput (isSummedUp : Bool) (report : Report) (screen : Preview) : Output :=
  let notices := messageNotices report.events
  match report.verdict with
  | .refused cause => (Failure.request cause).output screen
  | .clockOutOfRange =>
    { status := 1, screen := screen.output, notices := notices ++ [Failure.interrupted.notice] }
  | .done result =>
    if isSummedUp then
      match printLine screen result.summary with
      | (.error e, screen) => brokenOutput screen notices e
      | (.ok (), screen) =>
        let failure := shortfall? result
        { status := if failure.isSome then 1 else 0
          screen := screen.output
          notices := notices ++ (failure.map Failure.notice).toList }
    else { status := 0, screen := screen.output, notices }

namespace Job

/-- Where the messages of a job go. -/
def destination (job : Job) (screen : Preview) : Destination :=
  { screen, producers := job.producers }

/-- The batch of a job. -/
def start (job : Job) (screen : Preview) (clock : Time.Clock) (supply : UuidSupply) :
    Except DispatchError (Run Destination) :=
  Batch.start job.concurrency job.request { clock, supply, sink := job.destination screen }

/-- What a job leaves behind when its batch has ended. -/
def ended (job : Job) (ending : Run.Ending Destination) : Output :=
  let (report, world) := ending.report
  batchOutput job.isSummedUp report world.sink.screen

/-- Runs a job. -/
def run (job : Job) (screen : Preview) (clock : Time.Clock) (supply : UuidSupply) : Output :=
  match job.start screen clock supply with
  | .error cause => (Failure.request cause).output screen
  | .ok run => job.ended run.toEnd

end Job

/-- Carries out a plan. -/
def Plan.run (plan : Plan) (screen : Preview) (clock : Time.Clock) (supply : UuidSupply) : Output :=
  match plan with
  | .lines texts =>
    match printLines screen texts with
    | (.error e, screen) => brokenOutput screen [] e
    | (.ok (), screen) => { status := 0, screen := screen.output }
  | .batch job => job.run screen clock supply

/-- Does what the words of the command line ask for, over this transport and on this screen. -/
def performOver (transport : Transport ClientConfig) (screen : Preview) (env : Environment)
    (files : Files) (clock : Time.Clock) (supply : UuidSupply) (words : List String) : Output :=
  match read env words with
  | .error fault => { status := fault.status, screen := screen.output }
  | .ok command =>
    match planOver transport files command with
    | .error failure => failure.output screen
    | .ok plan => plan.run screen clock supply

end Courier.Command
