import Courier.Cluster.Basic
import Courier.Record.Tree
import Courier.Template.Message

/-!
# Decoding records

The records that come from files: templates, messages, clusters and producer settings. Each field is
required, optional or has a default.
-/

namespace Courier.Record

open DataTree

variable {m : Type → Type} [Monad m] [MonadLiftT Option m] {α : Type} [DataTree m α]

/-- A text that may stand for a missing one. -/
def optionalText (v : α) : m (Option String) :=
  orMissing text v

/-- A header: `key` and `value`. -/
def header (v : α) : m Template.Header := do
  let field ← slots ["key", "value"] v
  let key ← (field "key").required text
  let value ← (field "value").required text
  return { key, value }

/-- A template: `key`, `value` and `headers`, all of which may be left out. -/
def template (v : α) : m Template.MessageTemplate := do
  let field ← slots ["key", "value", "headers"] v
  let key ← (field "key").orDefault none optionalText
  let value ← (field "value").orDefault none optionalText
  let headers ← (field "headers").orDefault [] (list header)
  return { key, value, headers }

/-- A message: `key` and `value`, which may be left out, and `headers`. -/
def message (v : α) : m Template.Message := do
  let field ← slots ["key", "value", "headers"] v
  let key ← (field "key").optional optionalText
  let value ← (field "value").optional optionalText
  let headers ← (field "headers").required (list header)
  return { key, value, headers }

/-- A broker: `host` and `port`. -/
def broker (v : α) : m Broker := do
  let field ← slots ["host", "port"] v
  let host ← (field "host").required text
  let port ← (field "port").required (bounded 65535)
  return { host, port := UInt16.ofNat port }

/-- A table of texts; of several entries with one key the last counts. -/
def texts (v : α) : m (Table String) := do
  let read (entry : String × α) : m (String × String) :=
    return (entry.1, ← text entry.2)
  return Table.ofList (← (← entries v).mapM read)

/-- A cluster: `name`, `brokers` and `properties`, of which the last may be left out. -/
def cluster (v : α) : m Cluster := do
  let field ← slots ["name", "brokers", "properties"] v
  let name ← (field "name").required text
  let brokers ← (field "brokers").required (list broker)
  let properties ← (field "properties").orDefault .empty texts
  return { name, brokers, properties }

/-- A number of 64 bits. -/
def word64 (v : α) : m UInt64 :=
  return UInt64.ofNat (← bounded (UInt64.size - 1) v)

/-- Producer settings: `message_timeout_ms` and `delivery_timeout_secs`, both with defaults. -/
def producerSettings (v : α) : m ProducerSettings := do
  let field ← slots ["message_timeout_ms", "delivery_timeout_secs"] v
  let default : ProducerSettings := {}
  let message ← (field "message_timeout_ms").orDefault default.messageTimeoutMillis word64
  let delivery ← (field "delivery_timeout_secs").orDefault default.deliveryTimeoutSecs word64
  return { messageTimeoutMillis := message, deliveryTimeoutSecs := delivery }

end Courier.Record
