import Courier.Cluster.Registry
import Courier.File
import Courier.Record.Decode
import Courier.Text.Quoted
import Courier.Toml.Record
import Courier.Yaml.Record

/-!
# Settings

The settings name the clusters, in full or by a server each, and say how long a producer waits.
They come from a TOML or YAML file, or are empty.
-/

namespace Courier

open Cluster

/-- The settings of the program. -/
structure Settings where
  /-- Servers, each a cluster of its own. -/
  servers : List String := []
  /-- Clusters in full. If they are given, the servers do not count. -/
  clusters : Option (List Cluster) := none
  producer : ProducerSettings := {}

/-- Why settings cannot be had from a file. -/
inductive SettingsError where
  | unreadable (file : String) (fault : ReadFault)
  | invalidToml (file : String)
  | invalidYaml (file : String)
  /-- No data format goes with the extension, given in lower case. -/
  | unsupported (file : String) (ext : Option String)
deriving DecidableEq, Repr

namespace SettingsError

/-- The wording of an error. -/
def message : SettingsError → String
  | .unreadable file _ => "Failed to read config file " ++ Text.quoted file
  | .invalidToml file => "Failed to parse TOML config " ++ Text.quoted file
  | .invalidYaml file => "Failed to parse YAML config " ++ Text.quoted file
  | .unsupported file ext =>
    let shown := match ext with
      | some e => "Some(" ++ Text.quoted e ++ ")"
      | none => "None"
    "Unsupported config file extension " ++ shown ++ " for " ++ Text.quoted file ++
      " (expected toml, yaml or yml)"

/-- The wordings of the error and of what caused it, from the outside in. -/
def chain (e : SettingsError) : List String :=
  match e with
  | .unreadable _ fault => [e.message, fault.message]
  | _ => [e.message]

end SettingsError

namespace Settings

open Record in
/-- Settings: `bootstrap_servers`, `clusters` and `producer`, all of which may be left out. -/
def decode {m : Type → Type} [Monad m] [MonadLiftT Option m] {α : Type} [DataTree m α] (v : α) :
    m Settings := do
  let field ← DataTree.slots ["bootstrap_servers", "clusters", "producer"] v
  let servers ← (field "bootstrap_servers").orDefault [] (list DataTree.text)
  let clusters ← (field "clusters").orDefault none (orMissing (list cluster))
  let producer ← (field "producer").orDefault {} producerSettings
  return { servers, clusters, producer }

/-- Loads settings from a file. -/
def load (files : Files) (name : String) : Except SettingsError Settings :=
  match files name with
  | .error fault => .error (.unreadable name fault)
  | .ok content =>
    let decoded (fault : SettingsError) (settings : Option Settings) :=
      match settings with
      | some s => Except.ok s
      | none => .error fault
    match FileName.lowerExtension? name with
    | some "toml" => decoded (.invalidToml name) ((Toml.read? content).bind decode)
    | some "yaml" => decoded (.invalidYaml name) (Yaml.decode? decode content)
    | some "yml" => decoded (.invalidYaml name) (Yaml.decode? decode content)
    | ext => .error (.unsupported name ext)

/-- The clusters by the settings, or by servers that take the place of both of their lists. -/
def registry (s : Settings) (overrides : List String) : Except RegistryError Registry :=
  if overrides ≠ [] then Registry.ofServers overrides
  else
    match s.clusters with
    | some clusters => Registry.ofClusters clusters
    | none => Registry.ofServers s.servers

/-- The wordings for clusters that cannot be had, from the outside in. -/
def registryChain (e : RegistryError) : List String :=
  ["Invalid cluster configuration", e.message]

end Settings

end Courier
