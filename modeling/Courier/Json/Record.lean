import Courier.Json.Reader
import Courier.Record.Tree

/-!
# JSON values as data trees

A record is an object, or an array of its values in the order of its fields and no more. Null stands
for a missing value, and a natural number is written with digits alone.
-/

namespace Courier.Json

/-- The text of a string. -/
def text? : Json → Option String
  | .string text => some text
  | _ => none

/-- The value of a number without sign, point and exponent. -/
def natural? : Json → Option Nat
  | .number literal => Decimal.read? literal.toList
  | _ => none

/-- Null. -/
def isNull : Json → Bool
  | .null => true
  | _ => false

/-- The items of an array. -/
def items? : Json → Option (List Json)
  | .array items => some items
  | _ => none

/-- The members of an object if all of its keys denote texts. -/
def entries? : Json → Option (List (String × Json))
  | .object members => members.mapM fun (k, v) => k.map (·, v)
  | _ => none

/-- The fields of a record. -/
def slots? (fields : List String) (v : Json) : Option (String → Record.Slot Json) :=
  match v with
  | .array items =>
    if items.length ≤ fields.length then some (Record.slotsOfItems fields items) else none
  | v => (entries? v).bind (Record.slotsOfEntries? fields)

instance : Record.DataTree Option Json where
  text := text?
  natural := natural?
  unlessMissing v := some (if isNull v then none else some v)
  items := items?
  entries := entries?
  slots := slots?

end Courier.Json
