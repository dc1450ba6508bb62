import Courier.Command.Job
import Std.Time.DateTime.Timestamp

/-!
# The program

Reads the command line, the environment and the files that a command needs, runs a batch with the
time of day for each of its messages, and prints what the command leaves behind.
-/

namespace Courier.Program

open Command Batch

/-- A clock that stands still at the time of day. -/
def clock : IO Time.Clock := do
  let nanos := (← Std.Time.Timestamp.now).toNanosecondsSinceUnixEpoch.val
  let reading := Time.Instant.ofParts? (nanos / 1000000000) (nanos % 1000000000).toNat
  return { reading := fun _ => reading }

/-- A supply of identifiers that begins anywhere. -/
def supply : IO UuidSupply := do
  let bytes ← IO.getRandomBytes 16
  return .seeded (bytes.foldl (fun n b => 256 * n + b.toNat) 0)

/-- Reads a file as text. -/
def readText (name : String) : IO (Except ReadFault String) := do
  if let some fault := FileName.fault? name then return .error fault
  try
    let bytes ← IO.FS.readBinFile name
    return (String.fromUTF8? bytes).elim (.error .notUtf8) .ok
  catch
    | .inappropriateType _ code _ =>
      return .error (if code == 21 then .isDirectory else .notDirectory)
    | .permissionDenied .. => return .error .notPermitted
    | .invalidArgument _ code _ =>
      return .error (if code == 36 then .nameTooLong else .notFound)
    | _ => return .error .notFound

/-- The files of these names. -/
def readFiles (names : List String) : IO Files := do
  let contents ← names.mapM fun name => return (name, ← readText name)
  return fun name => (contents.lookup name).getD (.error .notFound)

/-- Runs a batch to its end, with the time of day at each step. -/
partial def drive (r : Run Destination) : IO (Run.Ending Destination) := do
  let r := { r with world := { r.world with clock := ← clock } }
  match r.advance with
  | .running r => drive r
  | .halted cause world => return .halted cause world
  | .complete => return .complete r

/-- Does what a command asks for. -/
def perform (command : Command) : IO Output := do
  let files ← readFiles (fileNames command)
  match plan files command with
  | .error failure => return failure.output {}
  | .ok (.lines texts) => return (Plan.lines texts).run {} (← clock) (← supply)
  | .ok (.batch job) =>
    match job.start {} (← clock) (← supply) with
    | .error cause => return (Failure.request cause).output {}
    | .ok run => return job.ended (← drive run)

/-- The environment of the program. -/
def environment : IO Environment := do
  return {
    settingsFile := ← IO.getEnv "KAFKA_SEND_CONFIG"
    servers := ← IO.getEnv "KAFKA_BOOTSTRAP_SERVERS" }

end Courier.Program

open Courier in
/-- Runs the program with the words of the command line. -/
def main (words : List String) : IO UInt32 := do
  let output ← match Command.read (← Program.environment) words with
    | .error fault => pure { status := fault.status }
    | .ok command => Program.perform command
  let stdout ← IO.getStdout
  stdout.write ⟨output.screen.toArray⟩
  stdout.flush
  output.notices.forM IO.eprintln
  return output.status.toUInt32
