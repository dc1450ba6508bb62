import Courier.Batch.Outcome

/-!
# Sinks

A sink takes messages one after the other. What it answers to a message is settled when the send is
started, however long the answer takes to arrive; a sink may also ask for the batch to be cancelled.
-/

namespace Courier.Batch

/-- A message on its way to a topic of a server. -/
structure Delivery where
  server : String
  topic : String
  message : Template.Message
deriving DecidableEq, Repr

/-- What a sink does with one message. -/
structure Receipt (σ : Type) where
  /-- The sink afterwards. -/
  sink : σ
  result : Except TransportError Unit
  /-- The sink asks for the batch to be cancelled as the send starts. -/
  cancels : Bool := false

/-- A destination for messages. -/
class Sink (σ : Type) where
  send : σ → Delivery → Receipt σ

/-! ## A sink for rehearsals -/

/-- A sink whose answer to a message hangs on nothing but the number of the message, counted
from 1. -/
structure Rehearsal where
  /-- The messages with these numbers fail. -/
  failOn : List Nat := []
  /-- All messages fail. -/
  failAll : Bool := false
  /-- Why they fail; the number of the message is added. -/
  reason : String := "rejected"
  /-- The message with this number cancels the batch. -/
  cancelOn : Option Nat := none
  /-- How many messages were taken. -/
  taken : Nat := 0
  /-- The messages taken, the latest first. -/
  deliveries : List Delivery := []

namespace Rehearsal

/-- The answer to the message with this number. -/
def answer (r : Rehearsal) (n : Nat) : Except TransportError Unit :=
  if r.failAll || r.failOn.contains n then
    .error ⟨r.reason ++ " " ++ String.ofList (Decimal.digits n)⟩
  else .ok ()

/-- Takes a message. -/
def send (r : Rehearsal) (d : Delivery) : Receipt Rehearsal :=
  let n := r.taken + 1
  { sink := { r with taken := n, deliveries := d :: r.deliveries }
    result := r.answer n
    cancels := r.cancelOn == some n }

instance : Sink Rehearsal where
  send := send

end Rehearsal

/-! ## A sink that prints -/

/-- Writes each message as a line of JSON to a medium that may have room for a number of bytes
only. A line that does not fit is written as far as it does, and fails. -/
structure Preview where
  /-- How many bytes still fit; absent when there is no limit. -/
  room : Option Nat := none
  /-- What a write fails with when nothing fits any more. -/
  fault : String := "disk full"
  /-- The bytes written, in pieces, the latest first. -/
  pieces : List (List UInt8) := []

namespace Preview

/-- A line feed. -/
def lineFeed : UInt8 := 10

/-- The line of a message in UTF-8, without its line feed. -/
def body (m : Template.Message) : List UInt8 :=
  (Record.jsonOfMessage m).render.flatMap String.utf8EncodeChar

/-- The line of a message in UTF-8, with its line feed. -/
def line (m : Template.Message) : List UInt8 :=
  ((Record.jsonOfMessage m).render ++ ['\n']).flatMap String.utf8EncodeChar

/-- All bytes written, from the first to the last. -/
def output (p : Preview) : List UInt8 :=
  p.pieces.reverse.flatten

/-- One write takes what still fits of these bytes and tells how many they are. A medium that is
full takes none. -/
def write (p : Preview) (bytes : List UInt8) : Except String (Nat × Preview) :=
  match p.room with
  | none => .ok (bytes.length, { p with pieces := bytes :: p.pieces })
  | some 0 => .error p.fault
  | some room =>
    let taken := bytes.take room
    .ok (taken.length,
      { p with room := some (room - taken.length), pieces := taken :: p.pieces })

/-- A write that succeeds takes something. -/
theorem pos_of_write {p p' : Preview} {bytes : List UInt8} {n : Nat}
    (h : p.write bytes = .ok (n, p')) (hne : bytes ≠ []) : 0 < n := by
  have hpos : 0 < bytes.length := List.length_pos_iff.mpr hne
  unfold write at h
  split at h
  · cases h
    exact hpos
  · cases h
  · rename_i room hzero _
    cases h
    rw [List.length_take]
    have hroom : room ≠ 0 := fun h => hzero h
    omega

/-- Writes again and again until all bytes are taken or a write fails. -/
def writeAll (p : Preview) (bytes : List UInt8) : Except String Unit × Preview :=
  if hne : bytes = [] then (.ok (), p)
  else
    match h : p.write bytes with
    | .error e => (.error e, p)
    | .ok (n, p') =>
      have : bytes.length - n < bytes.length :=
        Nat.sub_lt (List.length_pos_iff.mpr hne) (pos_of_write h hne)
      writeAll p' (bytes.drop n)
termination_by bytes.length

/-- Writes a line: its bytes first and the line feed after that. -/
def writeLine (p : Preview) (bytes : List UInt8) : Except String Unit × Preview :=
  match p.writeAll bytes with
  | (.error e, p) => (.error e, p)
  | (.ok (), p) => p.writeAll [lineFeed]

/-- Takes a message, whose JSON form is a line. -/
def send (p : Preview) (d : Delivery) : Receipt Preview :=
  let (result, p) := p.writeLine (body d.message)
  { sink := p, result := result.mapError fun e => ⟨"Failed to write message: " ++ e⟩ }

instance : Sink Preview where
  send := send

end Preview

end Courier.Batch
