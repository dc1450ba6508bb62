import Courier.Cluster.Basic
import Courier.Text.Blank

/-!
# The registry of clusters

A request names its cluster by an id, which is the name of the cluster with every character
replaced by `_` that is neither an ASCII letter or digit nor an ASCII blank. A registry comes from a
list of servers, one cluster each, or from a list of named clusters.
-/

namespace Courier.Cluster

/-- Why a registry cannot be made or has no such cluster. -/
inductive RegistryError where
  | unknownCluster (id : String)
  | invalidServer (server : String)
  | noBrokers (name : String)
  | duplicateCluster (id : String)
deriving DecidableEq, Repr

/-- The wording of an error. -/
def RegistryError.message : RegistryError → String
  | .unknownCluster id => "Unknown cluster '" ++ id ++ "'"
  | .invalidServer server => "Could not parse bootstrap server '" ++ server ++ "'"
  | .noBrokers name => "Cluster '" ++ name ++ "' has no brokers"
  | .duplicateCluster id => "Duplicate cluster id '" ++ id ++ "'"

/-- A character that an id keeps. -/
def isIdChar (c : Char) : Bool :=
  c.isAlphanum || Text.isAsciiBlank c || c == '\x0b'

/-- The id that goes with a name. -/
def sanitize (name : String) : String :=
  String.ofList (name.toList.map fun c => if isIdChar c then c else '_')

/-- The clusters that requests can name. -/
structure Registry where
  clusters : Table Cluster
deriving DecidableEq

namespace Registry

/-- Adds the cluster of one server. A server with the id of an earlier one takes its place. -/
def addServer (r : Registry) (server : String) : Except RegistryError Registry :=
  let server := Text.trim server
  match Broker.parse? server with
  | some broker =>
    let id := sanitize server
    .ok ⟨r.clusters.insert id ⟨id, [broker], .empty⟩⟩
  | none => .error (.invalidServer server)

/-- The registry of a list of servers, each a cluster of its own. -/
def ofServers (servers : List String) : Except RegistryError Registry :=
  servers.foldlM addServer ⟨.empty⟩

/-- Adds a named cluster, which must have brokers and an id of its own. -/
def addCluster (r : Registry) (c : Cluster) : Except RegistryError Registry :=
  let id := sanitize c.name
  if c.brokers = [] then .error (.noBrokers c.name)
  else if r.clusters.contains id then .error (.duplicateCluster id)
  else .ok ⟨r.clusters.insert id c⟩

/-- The registry of a list of named clusters. -/
def ofClusters (clusters : List Cluster) : Except RegistryError Registry :=
  clusters.foldlM addCluster ⟨.empty⟩

/-- The cluster with this id. -/
def get (r : Registry) (id : String) : Except RegistryError Cluster :=
  match r.clusters.get? id with
  | some c => .ok c
  | none => .error (.unknownCluster id)

/-- The broker addresses of the cluster with this id. -/
def bootstrapServers (r : Registry) (id : String) : Except RegistryError String :=
  (r.get id).map Cluster.bootstrapServers

/-- All ids in increasing order. -/
def ids (r : Registry) : List String :=
  r.clusters.keys

/-- How many clusters there are. -/
def size (r : Registry) : Nat :=
  r.clusters.size

end Registry

end Courier.Cluster
