import Courier.Cluster.Basic
import Courier.Json.Value
import Courier.Template.Message
import Courier.Text.Decimal

/-!
# Records as JSON

The JSON form of a record lists its fields in a fixed order; a missing key or value is null.
-/

namespace Courier.Record

/-- A natural number. -/
def jsonOfNat (n : Nat) : Json :=
  .number (String.ofList (Decimal.digits n))

/-- A text that may be missing. -/
def jsonOfOption : Option String → Json
  | some s => .string s
  | none => .null

/-- An object with these members. -/
def jsonOfFields (fields : List (String × Json)) : Json :=
  .object (fields.map fun (k, v) => (some k, v))

/-- A header. -/
def jsonOfHeader (h : Template.Header) : Json :=
  jsonOfFields [("key", .string h.key), ("value", .string h.value)]

/-- A message. -/
def jsonOfMessage (m : Template.Message) : Json :=
  jsonOfFields
    [("key", jsonOfOption m.key), ("value", jsonOfOption m.value),
     ("headers", .array (m.headers.map jsonOfHeader))]

/-- A template. -/
def jsonOfTemplate (t : Template.MessageTemplate) : Json :=
  jsonOfFields
    [("key", jsonOfOption t.key), ("value", jsonOfOption t.value),
     ("headers", .array (t.headers.map jsonOfHeader))]

/-- A broker. -/
def jsonOfBroker (b : Broker) : Json :=
  jsonOfFields [("host", .string b.host), ("port", jsonOfNat b.port.toNat)]

/-- A cluster, its properties in the order of their keys. -/
def jsonOfCluster (c : Cluster) : Json :=
  jsonOfFields
    [("name", .string c.name), ("brokers", .array (c.brokers.map jsonOfBroker)),
     ("properties", jsonOfFields (c.properties.entries.map fun (k, v) => (k, .string v)))]

/-- Producer settings. -/
def jsonOfProducerSettings (s : ProducerSettings) : Json :=
  jsonOfFields
    [("message_timeout_ms", jsonOfNat s.messageTimeoutMillis.toNat),
     ("delivery_timeout_secs", jsonOfNat s.deliveryTimeoutSecs.toNat)]

end Courier.Record
