import Courier.Cluster.Producers

/-!
# Producers that are made once

What a run of messages leaves in the store of producers, said of the attempts to make one: which
attempts there were, what is kept of them, and what the next message does.
-/

namespace Courier.Cluster

open Courier.Batch

/-- The value that a property has when the cluster does not set it. -/
def default? (settings : ProducerSettings) (c : Cluster) (property : String) : Option String :=
  if property = "bootstrap.servers" then some c.bootstrapServers
  else if property = "message.timeout.ms" then
    some (String.ofList (Decimal.digits settings.messageTimeoutMillis.toNat))
  else none

namespace Producers

variable {π : Type}

/-- The producers after these messages. -/
def after (p : Producers π) (ds : List Delivery) : Producers π :=
  ds.foldl (fun p d => (p.send d).sink) p

/-- After these messages each producer was made once, and it is used from then on. -/
structure MakesOnce (p : Producers π) (ds : List Delivery) : Prop where
  /-- Each attempt was for a registered server, with the configuration of its cluster. -/
  attempted : ∀ i a, (p.after ds).attempts[i]? = some a → ∃ c, p.registry.get a.server = .ok c ∧
    a.config = clientConfig p.settings c ∧ a.result = p.transport.create i a.config
  /-- In a configuration a property of the cluster goes before a default. -/
  configured : ∀ c property, (clientConfig p.settings c).get? property =
    (c.properties.get? property).or (default? p.settings c property)
  /-- Of two attempts for one server the earlier failed. -/
  once : (p.after ds).attempts.Pairwise fun a b => a.server = b.server → ∃ e, a.result = .error e
  /-- What is kept was made by an attempt for its server, and all that was made is kept. -/
  kept : ∀ server made, (server, made) ∈ (p.after ds).made.entries ↔
    ∃ a ∈ (p.after ds).attempts, a.server = server ∧ a.result = .ok made
  /-- All later messages to the server go to what is kept for it: this is what the transport is asked
  with, and what it answers is the result. -/
  reused : ∀ server made, (server, made) ∈ (p.after ds).made.entries →
    ∀ later d, d.server = server →
    let q := p.after (ds ++ later)
    q.send d =
      { sink := { q with asked := q.asked + 1 }
        result := (p.transport.deliver q.asked made p.settings.deliveryTimeoutSecs d).mapError
          fun e => ⟨e.message⟩ }
  /-- A server that is not registered fails the message and nothing else. -/
  unknown : ∀ d, (∀ c, p.registry.get d.server ≠ .ok c) → (p.after ds).send d =
    { sink := p.after ds, result := .error ⟨"Unknown cluster '" ++ d.server ++ "'"⟩ }
  /-- However many attempts for a registered server failed, and whatever became of other servers, the
  next message to it makes one more. If it fails, so does the message, and nothing is kept. If it
  does not, its producer is kept, and the transport is asked with this one. -/
  first : ∀ d c, p.registry.get d.server = .ok c →
    (∀ a ∈ (p.after ds).attempts, a.server = d.server → ∃ e, a.result = .error e) →
    let q := p.after ds
    ∃ a : Attempt π, a.server = d.server ∧ a.config = clientConfig p.settings c ∧
      a.result = p.transport.create q.attempts.length a.config ∧
      (∀ e, a.result = .error e → q.send d =
        { sink := { q with attempts := q.attempts ++ [a] }
          result := .error ⟨"Kafka error: " ++ e.message⟩ }) ∧
      ∀ made, a.result = .ok made → q.send d =
        { sink := { q with
            attempts := q.attempts ++ [a]
            made := q.made.insert d.server made
            asked := q.asked + 1 }
          result := (p.transport.deliver q.asked made p.settings.deliveryTimeoutSecs d).mapError
            fun e => ⟨e.message⟩ }

end Producers

end Courier.Cluster
