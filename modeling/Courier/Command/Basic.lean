import Courier.Command.Options

/-!
# Commands

What the program can be asked to do: send messages, preview them, and list the clusters. The
settings file and the servers can also come from the environment, which counts where no option is
given.
-/

namespace Courier

namespace Command

/-- What the environment says. -/
structure Environment where
  settingsFile : Option String := none
  servers : Option String := none

/-- Where the clusters come from. -/
structure ClusterChoice where
  settingsFile : Option String
  /-- Servers that take the place of those in the settings, unless there are none. -/
  servers : List String
deriving DecidableEq, Repr

/-- What to send and how. -/
structure SendOptions where
  server : String
  topic : String
  templateFile : String
  count : Nat
  concurrency : Nat
  createTopic : Bool
  partitions : Int
  replicationFactor : Int
  /-- The messages are printed and not sent. -/
  dryRun : Bool
  clusters : ClusterChoice
deriving DecidableEq, Repr

end Command

open Command in
/-- What the program is asked to do. -/
inductive Command where
  | send (options : SendOptions)
  | preview (templateFile : String) (count : Nat)
  | clusters (choice : ClusterChoice)
deriving DecidableEq, Repr

namespace Command

/-! ## Values of options -/

/-- The parts of a text between commas. -/
def splitAtCommas (s : String) : List String :=
  go s.toList []
where
  /-- The parts of a text; `before` holds the part that is being read, the nearest first. -/
  go : List Char → List Char → List String
    | [], before => [String.ofList before.reverse]
    | c :: rest, before =>
      if c == ',' then String.ofList before.reverse :: go rest [] else go rest (c :: before)

/-- The value of an option that has to be given. -/
def requiredText (given : Given) (name : String) : Except UsageFault String :=
  match given.lookup name with
  | some value => .ok value
  | none => .error (.missingOption name)

/-- The number in an option; 1 if it is not given. -/
def number (given : Given) (name : String) : Nat :=
  ((given.lookup name).bind number?).getD 1

/-- The number in an option that may be negative; 1 if it is not given. -/
def integer (given : Given) (name : String) : Int :=
  ((given.lookup name).bind integer?).getD 1

/-- Where the clusters come from. -/
def clusterChoice (env : Environment) (given : Given) : Except UsageFault ClusterChoice := do
  let file := (given.lookup "config").or env.settingsFile
  if file = some "" then .error (.invalidValue "config" "")
  let lists := (given.filter (·.1 = "bootstrap-servers")).map Prod.snd
  let lists := if lists.isEmpty then env.servers.toList else lists
  return { settingsFile := file, servers := lists.flatMap splitAtCommas }

/-! ## Reading a command -/

/-- The options about clusters. -/
def clusterKinds : List (String × OptionKind) :=
  [("config", .single .file), ("bootstrap-servers", .repeated)]

/-- The options of sending. -/
def sendKinds : List (String × OptionKind) :=
  [("server", .single .text), ("topic", .single .text), ("template", .single .file),
   ("count", .single .number), ("concurrency", .single .number), ("create-topic", .switch),
   ("partitions", .single .integer), ("replication-factor", .single .integer),
   ("dry-run", .switch)] ++ clusterKinds

/-- The options of a preview. -/
def previewKinds : List (String × OptionKind) :=
  [("template", .single .file), ("count", .single .number)]

/-- Reads the options of sending. -/
def readSend (env : Environment) (words : List String) : Except UsageFault SendOptions := do
  let given ← readOptions sendKinds [] words
  return {
    server := ← requiredText given "server"
    topic := ← requiredText given "topic"
    templateFile := ← requiredText given "template"
    count := number given "count"
    concurrency := number given "concurrency"
    createTopic := (given.lookup "create-topic").isSome
    partitions := integer given "partitions"
    replicationFactor := integer given "replication-factor"
    dryRun := (given.lookup "dry-run").isSome
    clusters := ← clusterChoice env given }

/-- What the first word of the command line can be. -/
def commandWords : List String :=
  ["send", "preview", "clusters", "help"]

/-- The fault that ends a request for help about a command. Commands have no commands of their
own. -/
def helpAbout (words : List String) : UsageFault :=
  match words with
  | [] => .help
  | [word] => if commandWords.contains word then .help else .unknownCommand word
  | word :: next :: _ => .unknownCommand (if commandWords.contains word then next else word)

/-- Reads the words of the command line. -/
def read (env : Environment) : List String → Except UsageFault Command
  | [] => .error .noCommand
  | word :: rest =>
    if word = "send" then (readSend env rest).map .send
    else if word = "preview" then do
      let given ← readOptions previewKinds [] rest
      return .preview (← requiredText given "template") (number given "count")
    else if word = "clusters" then do
      let given ← readOptions clusterKinds [] rest
      return .clusters (← clusterChoice env given)
    else if word = "help" then .error (helpAbout rest)
    else if asksForHelp word then .error .help
    else .error (.unknownCommand word)

end Command

end Courier
