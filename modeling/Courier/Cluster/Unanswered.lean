import Courier.Cluster.Producers
import Courier.Cluster.Property
import Courier.Text.Bytes

/-!
# Clusters that do not answer

The transport `unanswered` reaches no broker. It knows which properties and messages are refused on
this side, and every message that it takes waits in vain for its acknowledgement.
-/

namespace Courier.Cluster

open Courier.Batch

/-- A property that no client knows. -/
def ClientError.unknownProperty (property value : String) : ClientError :=
  ⟨"Client config error: No such configuration property: \"" ++ property ++ "\" " ++ property ++
    " " ++ value⟩

namespace DeliveryError

/-- A message with more bytes than the client takes. -/
def tooLarge : DeliveryError :=
  ⟨"Message production error: MessageSizeTooLarge (Broker: Message size too large)"⟩

/-- A message that is not acknowledged in time. -/
def timedOut : DeliveryError :=
  ⟨"Message production error: MessageTimedOut (Local: Message timed out)"⟩

end DeliveryError

namespace Transport

/-- The first property that no client knows. -/
def unknownProperty? (config : ClientConfig) : Option ClientError :=
  (config.entries.find? fun e => !isKnownProperty e.1).map fun e => .unknownProperty e.1 e.2

/-- The largest message a client takes when its properties do not say so. -/
def defaultMaxBytes : Nat := 1000000

/-- The bytes that a message can take up beside its texts. -/
def frameBytes : Nat := 36

/-- The bytes that a header can take up beside its texts. -/
def headerBytes : Nat := 10

/-- The most bytes that a message can take up on its way. -/
def wireBytes (m : Template.Message) : Nat :=
  let textBytes (s : String) := Text.byteLength s.toList
  frameBytes + (m.key.map textBytes).getD 0 + (m.value.map textBytes).getD 0 +
    m.headers.foldr (fun h n => headerBytes + textBytes h.key + textBytes h.value + n) 0

/-- A client of this configuration, if all its properties are known. -/
def client (config : ClientConfig) : Except ClientError ClientConfig :=
  (unknownProperty? config).elim (.ok config) .error

/-- The transport that reaches no broker. -/
def unanswered : Transport ClientConfig where
  create _ config := client config
  deliver _ config _ d :=
    let limit := ((config.get? "message.max.bytes").bind fun s => Decimal.read? s.toList).getD
      defaultMaxBytes
    if limit < wireBytes d.message then .error .tooLarge else .error .timedOut
  administer config :=
    (client config).map fun _ _ =>
      .error "Admin operation error: OperationTimedOut (Local: Timed out)"

end Transport

end Courier.Cluster
