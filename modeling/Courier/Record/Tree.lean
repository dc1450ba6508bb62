/-!
# Data trees and records

The data formats differ in how they spell text, numbers and records, and agree on what a record is:
values under fixed field names. `DataTree` holds what a format has to say about a value of its own,
so that each record is decoded once for all formats. Looking into a value may fail, and a format may keep
account of what was looked into; the monad of the class is for that.
-/

namespace Courier.Record

/-- What a value says about one field of a record. -/
inductive Slot (α : Type) where
  /-- The field is not named. -/
  | absent
  /-- The record is a row of values and ends before this field. -/
  | cut
  | present (value : α)

/-- What a data format says about a value. -/
class DataTree (m : outParam (Type → Type)) (α : Type) where
  /-- The text of a value. -/
  text : α → m String
  /-- The natural number of a value. -/
  natural : α → m Nat
  /-- The value itself unless it stands for a missing one; fails if it says so and cannot. -/
  unlessMissing : α → m (Option α)
  /-- The items of a sequence. -/
  items : α → m (List α)
  /-- The entries of a map whose keys are texts, in order and with repetitions. -/
  entries : α → m (List (String × α))
  /-- The fields of these names, none of them repeated. -/
  slots : List String → α → m (String → Slot α)

section

variable {α : Type}

/-- The fields of a record given by its entries. Unknown fields do not matter. -/
def slotsOfEntries? (fields : List String) (entries : List (String × α)) :
    Option (String → Slot α) :=
  let named := (entries.map Prod.fst).filter fields.contains
  if named.Nodup then
    some fun field =>
      match entries.lookup field with
      | some v => .present v
      | none => .absent
  else none

/-- The fields of a record given by its values in the order of the fields. -/
def slotsOfItems (fields : List String) (items : List α) (field : String) : Slot α :=
  match (fields.zip items).lookup field with
  | some v => .present v
  | none => .cut

end

variable {m : Type → Type} [Monad m] [MonadLiftT Option m] {α β : Type}

/-- A value that cannot be had. -/
def refused : m β :=
  liftM (none : Option β)

namespace Slot

/-- A field that has to be there. -/
def required (s : Slot α) (decode : α → m β) : m β :=
  match s with
  | .present v => decode v
  | _ => refused

/-- A field with a default. -/
def orDefault (s : Slot α) (default : β) (decode : α → m β) : m β :=
  match s with
  | .present v => decode v
  | _ => pure default

/-- A field that may stay unnamed, though not be cut off. -/
def optional (s : Slot α) (decode : α → m (Option β)) : m (Option β) :=
  match s with
  | .present v => decode v
  | .absent => pure none
  | .cut => refused

end Slot

open DataTree

variable [DataTree m α]

/-- Decodes a value that may stand for a missing one. -/
def orMissing (decode : α → m β) (v : α) : m (Option β) := do
  match ← unlessMissing v with
  | some v => return some (← decode v)
  | none => return none

/-- Decodes each item of a sequence. -/
def list (decode : α → m β) (v : α) : m (List β) := do
  (← items v).mapM decode

/-- A natural number up to a bound. -/
def bounded (bound : Nat) (v : α) : m Nat := do
  let n ← natural v
  if n ≤ bound then return n else refused

end Courier.Record
