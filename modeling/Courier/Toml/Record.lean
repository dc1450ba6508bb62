import Courier.Record.Tree
import Courier.Toml.Reader

/-!
# TOML values as data trees

A record is a table, or an array of its values in the order of its fields, of which those past the
last field do not matter. A date is a map of one entry, its standard form under a reserved key.
Nothing stands for a missing value.
-/

namespace Courier.Toml

/-- The text of a string. -/
def text? : Node → Option String
  | .text s => some s
  | _ => none

/-- The value of an integer that is not negative. -/
def natural? : Node → Option Nat
  | .integer (.ofNat n) => some n
  | _ => none

/-- The items of an array or of a row of tables. -/
def nodes? : Node → Option (List Node)
  | .array items => some items
  | .tables rows => some (rows.map fun row => .table false false row)
  | _ => none

/-- The key that the standard form of a date is under. -/
def dateKey : String := "$__toml_private_datetime"

/-- The entries of a table. -/
def entries? : Node → Option (List (String × Node))
  | .inlineTable entries => some entries
  | .table _ _ entries => some entries
  | .dateTime standard => some [(dateKey, .text standard)]
  | _ => none

/-- The fields of a record. -/
def slots? (fields : List String) (v : Node) : Option (String → Record.Slot Node) :=
  match nodes? v with
  | some items => some (Record.slotsOfItems fields items)
  | none => (entries? v).bind (Record.slotsOfEntries? fields)

instance : Record.DataTree Option Node where
  text := text?
  natural := natural?
  unlessMissing v := some (some v)
  items := nodes?
  entries := entries?
  slots := slots?

end Courier.Toml
