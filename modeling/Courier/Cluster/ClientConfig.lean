import Courier.Cluster.Basic

/-!
# Client configuration

A client of a cluster is configured by the addresses of its brokers and the time-out for a message;
a property of the cluster takes the place of either.
-/

namespace Courier.Cluster

/-- The properties a client is made with. -/
abbrev ClientConfig := Table String

/-- The configuration of the clients of a cluster. -/
def clientConfig (settings : ProducerSettings) (c : Cluster) : ClientConfig :=
  let defaults := Table.ofList
    [("bootstrap.servers", c.bootstrapServers),
     ("message.timeout.ms", String.ofList (Decimal.digits settings.messageTimeoutMillis.toNat))]
  c.properties.entries.foldl (fun t e => t.insert e.1 e.2) defaults

end Courier.Cluster
