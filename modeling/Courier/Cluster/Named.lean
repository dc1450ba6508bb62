import Courier.Cluster.Server

/-!
# Named clusters and servers that are in order

When clusters can be registered together, said without registering them, and what is wrong with one
that cannot be registered after others; and how a server has to be written.
-/

namespace Courier.Cluster

/-- The id of a cluster. -/
def idOf (c : Cluster) : String :=
  sanitize c.name

/-- Each cluster has a broker, and no two have one id. -/
structure Registrable (clusters : List Cluster) : Prop where
  brokers : ∀ c ∈ clusters, c.brokers ≠ []
  distinct : (clusters.map idOf).Nodup

/-- What is wrong with a cluster that comes after others. That it has no brokers counts first. -/
inductive Offends (before : List Cluster) (c : Cluster) : RegistryError → Prop where
  | noBrokers (brokerless : c.brokers = []) : Offends before c (.noBrokers c.name)
  | duplicate (brokers : c.brokers ≠ []) (taken : ∃ b ∈ before, idOf b = idOf c) :
    Offends before c (.duplicateCluster (idOf c))

/-- A text is a host, which is not empty and has no colon, a colon and a port: one or more digits
that denote a number up to 65535, after a plus sign or not. -/
def IsServer (text : List Char) : Prop :=
  ∃ host port digits, text = host ++ ':' :: port ∧ host ≠ [] ∧ ':' ∉ host ∧
    (port = digits ∨ port = '+' :: digits) ∧ digits ≠ [] ∧
    (∀ c ∈ digits, Decimal.isDigit c = true) ∧ Decimal.ofDigits digits ≤ 65535

/-- What a registry of these clusters holds. -/
structure Registry.Registers (r : Registry) (clusters : List Cluster) : Prop where
  /-- The ids are those of the clusters. -/
  ids_perm : r.ids.Perm (clusters.map idOf)
  length_ids : r.ids.length = clusters.length
  /-- They are in the order of their bytes. -/
  ids_lt : r.ids.Pairwise fun a b =>
    a.toList.flatMap String.utf8EncodeChar < b.toList.flatMap String.utf8EncodeChar
  /-- An id is its own id. -/
  sanitize_id : ∀ id ∈ r.ids, sanitize id = id
  found : ∀ c ∈ clusters, r.get (idOf c) = .ok c
  unknown : ∀ id, (∀ c ∈ clusters, idOf c ≠ id) → r.get id = .error (.unknownCluster id)

end Courier.Cluster
