import Courier.Table
import Courier.Text.Decimal

/-!
# Clusters

A cluster has a name, a list of brokers and properties for the clients that talk to it. Producer
settings hold for the clients of all clusters.
-/

namespace Courier

/-- A broker of a cluster. -/
structure Broker where
  host : String
  port : UInt16
deriving DecidableEq, Repr

/-- Host and port with a colon between them. -/
def Broker.address (b : Broker) : String :=
  b.host ++ ":" ++ String.ofList (Decimal.digits b.port.toNat)

/-- The broker that a text `host:port` names. The port is a decimal number up to 65535, with an
optional plus sign. -/
def Broker.parse? (server : String) : Option Broker :=
  let cs := server.toList
  match cs.dropWhile (· != ':') with
  | _ :: port => do
    let number ← Decimal.readUpTo? 65535 port
    let host := cs.takeWhile (· != ':')
    if host = [] then none else some ⟨String.ofList host, UInt16.ofNat number⟩
  | [] => none

/-- A named cluster. -/
structure Cluster where
  name : String
  brokers : List Broker
  properties : Table String
deriving DecidableEq

/-- The addresses of all brokers with commas between them. -/
def Cluster.bootstrapServers (c : Cluster) : String :=
  ",".intercalate (c.brokers.map Broker.address)

/-- Settings for the clients of every cluster. -/
structure ProducerSettings where
  /-- How long a message may wait for its acknowledgement. -/
  messageTimeoutMillis : UInt64 := 30000
  /-- How long a send may wait for room among the messages not yet sent. -/
  deliveryTimeoutSecs : UInt64 := 30
deriving DecidableEq, Repr

end Courier
