import Courier.Batch.Sink
import Courier.Cluster.ClientConfig
import Courier.Cluster.Registry

/-!
# Sending to clusters

The first message to a cluster makes a producer for it, which is kept and used for every later one.
A server that is not registered, and a producer that cannot be made, fail the message at hand and
leave what is kept as it is.

How clients are made and what becomes of what they are asked for is up to a `Transport`, which may
answer each time as it likes.
-/

namespace Courier.Cluster

open Courier.Batch

/-- Why a client cannot be made. -/
structure ClientError where
  message : String
deriving DecidableEq, Repr

/-- Why a cluster cannot be used. -/
inductive ClusterError where
  | registry (cause : RegistryError)
  | client (cause : ClientError)
  | topicNotCreated (reason : String)
deriving DecidableEq, Repr

namespace ClusterError

/-- The wording of an error. -/
def message : ClusterError → String
  | .registry cause => cause.message
  | .client cause => "Kafka error: " ++ cause.message
  | .topicNotCreated reason => "Topic creation error: " ++ reason

/-- The wordings of the error and of what caused it, from the outside in. -/
def chain (e : ClusterError) : List String :=
  match e with
  | .client cause => [e.message, cause.message]
  | _ => [e.message]

end ClusterError

/-- Why a message that a producer took was not delivered. -/
structure DeliveryError where
  message : String
deriving DecidableEq, Repr

/-- A topic to be created. -/
structure NewTopic where
  name : String
  partitions : Int
  replicationFactor : Int
deriving DecidableEq, Repr

/-- Why one of the topics that were to be created was not. -/
structure TopicFault where
  topic : String
  message : String
deriving DecidableEq, Repr

/-- A topic that was there before need not be created. -/
def TopicFault.isPresent (f : TopicFault) : Bool :=
  f.message.contains "already exists" || f.message.contains "TopicExistsException"

/-- What the topics that an administrator was asked for came to: their names, or why they were not
created. -/
abbrev TopicResults :=
  List (Except TopicFault String)

/-- The first fault that is more than a topic being there before. -/
def TopicResults.fault? : TopicResults → Option TopicFault
  | [] => none
  | .ok _ :: rest => fault? rest
  | .error f :: rest => if f.isPresent then fault? rest else some f

/-- How clients are made, and what becomes of what one is asked for. -/
structure Transport (π : Type) where
  /-- Makes a producer. The attempts are numbered from zero, and each may end differently. -/
  create : Nat → ClientConfig → Except ClientError π
  /-- Has a producer deliver a message, for which there must be room within this many seconds. What
  producers are asked for is numbered too. -/
  deliver : Nat → π → UInt64 → Delivery → Except DeliveryError Unit
  /-- Makes an administrator, who then creates topics. -/
  administer : ClientConfig → Except ClientError (NewTopic → Except String TopicResults)

/-- An attempt to make a producer for a server. -/
structure Attempt (π : Type) where
  server : String
  config : ClientConfig
  result : Except ClientError π

/-- A registry with the producers made so far. -/
structure Producers (π : Type) where
  registry : Registry
  settings : ProducerSettings
  transport : Transport π
  /-- The producers by the ids of their clusters. -/
  made : Table π := .empty
  /-- The attempts to make one, in order. Only their number matters to the transport. -/
  attempts : List (Attempt π) := []
  /-- How many messages producers were asked to deliver. -/
  asked : Nat := 0

namespace Producers

variable {π : Type}

/-- The producers before the first message: none is made yet. -/
def start (registry : Registry) (settings : ProducerSettings) (transport : Transport π) :
    Producers π :=
  { registry, settings, transport }

/-- The next attempt, if it is for a server of this cluster. -/
def attempt (p : Producers π) (server : String) (c : Cluster) : Attempt π :=
  let config := clientConfig p.settings c
  ⟨server, config, p.transport.create p.attempts.length config⟩

/-- The producers after one more attempt. -/
def tried (p : Producers π) (a : Attempt π) : Producers π :=
  { p with attempts := p.attempts ++ [a] }

/-- The producers with one more that is kept for a server. -/
def keeping (p : Producers π) (server : String) (made : π) : Producers π :=
  { p with made := p.made.insert server made }

/-- The producer for a server: the one that was made before, or a new one. -/
def producer (p : Producers π) (server : String) : Except ClusterError π × Producers π :=
  match p.made.get? server with
  | some made => (.ok made, p)
  | none =>
    match p.registry.get server with
    | .error e => (.error (.registry e), p)
    | .ok cluster =>
      let attempt := p.attempt server cluster
      match attempt.result with
      | .error e => (.error (.client e), p.tried attempt)
      | .ok made => (.ok made, (p.tried attempt).keeping server made)

/-- Has a producer deliver a message. -/
def deliver (p : Producers π) (made : π) (d : Delivery) : Receipt (Producers π) :=
  { sink := { p with asked := p.asked + 1 }
    result := (p.transport.deliver p.asked made p.settings.deliveryTimeoutSecs d).mapError
      fun e => ⟨e.message⟩ }

/-- Takes a message. -/
def send (p : Producers π) (d : Delivery) : Receipt (Producers π) :=
  match p.producer d.server with
  | (.error e, p) => { sink := p, result := .error ⟨e.message⟩ }
  | (.ok made, p) => p.deliver made d

instance : Sink (Producers π) where
  send := send

/-- Creates a topic on a server unless there is one, over an administrator who is not kept. -/
def createTopic (p : Producers π) (server topic : String)
    (partitions replicationFactor : Int := 1) : Except ClusterError Unit := do
  let cluster ← (p.registry.get server).mapError .registry
  let create ← (p.transport.administer (clientConfig p.settings cluster)).mapError .client
  let results ← (create ⟨topic, partitions, replicationFactor⟩).mapError
    fun e => .topicNotCreated ("Failed to create topic: " ++ e)
  match results.fault? with
  | some f => .error (.topicNotCreated ("Failed to create topic " ++ f.topic ++ ": " ++ f.message))
  | none => .ok ()

end Producers

end Courier.Cluster
