/-!
# TOML values

A document is a table. Whether a table may be extended later depends on how it came about, so a
table remembers whether it was only implied by a longer key and whether that key was dotted.
-/

namespace Courier.Toml

/-- A value, or a table or row of tables of a document. -/
inductive Node where
  | text (s : String)
  | integer (n : Int)
  | float
  | boolean (b : Bool)
  /-- A date, a time of day or both, in its standard form. -/
  | dateTime (standard : String)
  | array (items : List Node)
  /-- A table written as a value, which is complete. -/
  | inlineTable (entries : List (String × Node))
  /-- A table of the document. -/
  | table (implied dotted : Bool) (entries : List (String × Node))
  /-- The tables that share one header in double brackets. -/
  | tables (rows : List (List (String × Node)))

/-- A table that can take entries. -/
structure OpenTable where
  /-- It is named by a longer key alone. -/
  implied : Bool := false
  /-- The key that names it is dotted. -/
  dotted : Bool := false
  entries : List (String × Node) := []

namespace OpenTable

/-- Replaces the value of a key, or adds the key at the end. -/
def put (key : String) (value : Node) : List (String × Node) → List (String × Node)
  | [] => [(key, value)]
  | e :: rest => if e.1 = key then (key, value) :: rest else e :: put key value rest

/-- Replaces the last of several rows. -/
def replaceLast {α : Type} (row : α) : List α → List α
  | [] => []
  | [_] => [row]
  | r :: rest => r :: replaceLast row rest

/-- Changes the table at the end of a path. Tables on the way that are missing are implied; a row of
tables stands for its last table. A dotted key does not lead into a table with a header of its
own. -/
def within (dotted : Bool) (change : OpenTable → Option OpenTable) :
    List String → OpenTable → Option OpenTable
  | [], t => change t
  | key :: path, t => do
    let node ← match t.entries.lookup key with
      | none => do
        let child ← within dotted change path { implied := true, dotted }
        pure (Node.table child.implied child.dotted child.entries)
      | some (.table implied wasDotted entries) => do
        if dotted && !implied then none
        else
          let child ← within dotted change path { implied, dotted := wasDotted, entries }
          pure (Node.table child.implied child.dotted child.entries)
      | some (.tables rows) => do
        let row ← rows.getLast?
        let child ← within dotted change path { entries := row }
        pure (Node.tables (replaceLast child.entries rows))
      | some _ => none
    return { t with entries := put key node t.entries }

/-- Adds an entry under a dotted key, the last part of which is given apart. -/
def addEntry (path : List String) (key : String) (value : Node) (t : OpenTable) :
    Option OpenTable :=
  t.within true
    (fun t =>
      if t.dotted == path.isEmpty || (t.entries.lookup key).isSome then none
      else some { t with entries := t.entries ++ [(key, value)] })
    path

end OpenTable

end Courier.Toml
