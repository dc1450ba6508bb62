import Courier.Cluster.Registry

/-!
# Servers and the brokers they name

How a server is written, said without reading it: a host, a colon and a port. A port can be written
in several ways, so that servers that are written differently may name one broker; and since an id
forgets which characters it replaces, servers that name different brokers may have one id.
-/

namespace Courier

/-- A port written in decimal: one or more digits, after a plus sign or not. -/
def IsPort (text : List Char) (port : UInt16) : Prop :=
  ∃ digits, (text = digits ∨ text = '+' :: digits) ∧ digits ≠ [] ∧
    (∀ c ∈ digits, Decimal.isDigit c = true) ∧ Decimal.ofDigits digits = port.toNat

/-- A server is written as the host of this broker, which is not empty and has no colon, a colon and
the port. -/
def Broker.IsNamedBy (b : Broker) (server : String) : Prop :=
  ∃ port, server.toList = b.host.toList ++ ':' :: port ∧ ':' ∉ b.host.toList ∧
    b.host.toList ≠ [] ∧ IsPort port b.port

namespace Cluster

/-- The port of this server has no plus sign and no needless zero in front. -/
def IsPlain (server : String) : Prop :=
  ∀ host port, server.toList = host ++ ':' :: port → ':' ∉ host →
    (∀ rest, port ≠ '+' :: rest) ∧ ∀ c rest, port ≠ '0' :: c :: rest

/-- The id of a server, blanks at either end aside. -/
def serverId (server : String) : String :=
  sanitize (Text.trim server)

/-- Of the servers with this id, this is the last. -/
def IsLast (servers : List String) (id server : String) : Prop :=
  ∃ before after, servers = before ++ server :: after ∧ serverId server = id ∧
    ∀ s ∈ after, serverId s ≠ id

/-- The registry leads from the id of this server to a cluster at the address it names. -/
def Registry.Reaches (r : Registry) (server : String) : Prop :=
  ∃ (b : Broker) (c : Cluster), b.IsNamedBy (Text.trim server) ∧ r.get (serverId server) = .ok c ∧
    c.bootstrapServers = b.address

end Cluster

end Courier
