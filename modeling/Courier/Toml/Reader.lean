import Courier.Toml.Number
import Courier.Toml.Text

/-!
# Reading TOML

A document is read line by line: a key with its value, or the header of a table that takes the
entries after it. No key is given twice, and no table has two headers.
-/

namespace Courier.Toml

mutual

/-- Reads a value. `depth` counts the containers around it; `fuel` bounds the number of steps. -/
def value? (fuel depth : Nat) (cs : List Char) : Option (Node × List Char) :=
  match fuel with
  | 0 => none
  | fuel + 1 =>
    match cs with
    | [] => none
    | '[' :: rest =>
      if depth + 1 < nestingLimit then
        match skipLines rest.length rest with
        | ']' :: rest => some (.array [], rest)
        | rest => (items? fuel (depth + 1) [] rest).map fun (items, rest) => (.array items, rest)
      else none
    | '\x7b' :: rest =>
      if depth + 1 < nestingLimit then
        match skipBlanks rest with
        | '\x7d' :: rest => some (.inlineTable [], rest)
        | rest =>
          (pairs? fuel (depth + 1) {} rest).map fun (t, rest) => (.inlineTable t.entries, rest)
      else none
    | 't' :: 'r' :: 'u' :: 'e' :: rest => some (.boolean true, rest)
    | 'f' :: 'a' :: 'l' :: 's' :: 'e' :: rest => some (.boolean false, rest)
    | c :: _ =>
      if c == '"' || c == '\'' then (string? cs).map fun (s, rest) => (.text s, rest)
      else number? cs

/-- Reads the items of an array up to its end; `before` holds those read, the nearest first. -/
def items? (fuel depth : Nat) (before : List Node) (cs : List Char) :
    Option (List Node × List Char) :=
  match fuel with
  | 0 => none
  | fuel + 1 =>
    match value? fuel depth cs with
    | none => none
    | some (item, rest) =>
      match skipLines rest.length rest with
      | ']' :: rest => some ((item :: before).reverse, rest)
      | ',' :: rest =>
        -- A comma may follow the last item.
        match skipLines rest.length rest with
        | ']' :: rest => some ((item :: before).reverse, rest)
        | rest => items? fuel depth (item :: before) rest
      | _ => none

/-- Reads the entries of an inline table up to its end. -/
def pairs? (fuel depth : Nat) (t : OpenTable) (cs : List Char) : Option (OpenTable × List Char) :=
  match fuel with
  | 0 => none
  | fuel + 1 =>
    match key? cs with
    | some ((path, key), '=' :: rest) =>
      match value? fuel depth (skipBlanks rest) with
      | none => none
      | some (value, rest) =>
        match t.addEntry path key value with
        | none => none
        | some t =>
          match skipBlanks rest with
          | '\x7d' :: rest => some (t, rest)
          -- After a comma there has to be another key.
          | ',' :: rest => pairs? fuel depth t rest
          | _ => none
    | _ => none

end

/-- A document part of the way through. -/
structure Draft where
  /-- All tables but the one that takes entries. -/
  root : OpenTable := {}
  /-- The table that takes entries. -/
  current : OpenTable := {}
  /-- The key of that table; absent for the document itself. -/
  header : Option (List String × String) := none
  /-- That table is one of a row. -/
  isRow : Bool := false

namespace Draft

/-- Puts the table that takes entries where it belongs. -/
def settle (d : Draft) : Option OpenTable :=
  match d.header with
  | none => some d.current
  | some (path, key) =>
    d.root.within false
      (fun parent =>
        if d.isRow then
          match parent.entries.lookup key with
          | none => some { parent with
              entries := OpenTable.put key (.tables [d.current.entries]) parent.entries }
          | some (.tables rows) => some { parent with
              entries := OpenTable.put key (.tables (rows ++ [d.current.entries])) parent.entries }
          | some _ => none
        else
          some { parent with
            entries := OpenTable.put key
              (.table d.current.implied d.current.dotted d.current.entries) parent.entries })
      path

/-- Begins one more table of a row. -/
def beginRow (d : Draft) (path : List String) (key : String) : Option Draft := do
  let root ← d.settle
  -- The row is there from its first header on; its tables are added when they are complete.
  let root ← root.within false
    (fun parent =>
      match parent.entries.lookup key with
      | none => some { parent with entries := OpenTable.put key (.tables []) parent.entries }
      | some (.tables _) => some parent
      | some _ => none)
    path
  return { root, header := some (path, key), isRow := true }

/-- Begins a table. It may be there only as one that longer headers imply, and then goes on with
what it holds. -/
def beginTable (d : Draft) (path : List String) (key : String) : Option Draft := do
  let root ← d.settle
  let found ← (root.within false some path).bind fun _ => lookupIn root path
  match found.entries.lookup key with
  | none =>
    return { root, header := some (path, key) }
  | some (.table true false entries) =>
    return { root, current := { entries }, header := some (path, key) }
  | some _ => none
where
  /-- The table at the end of a path; empty if it is still to be implied. -/
  lookupIn (t : OpenTable) : List String → Option OpenTable
    | [] => some t
    | key :: path =>
      match t.entries.lookup key with
      | none => some {}
      | some (.table implied dotted entries) => lookupIn { implied, dotted, entries } path
      | some (.tables rows) => rows.getLast?.bind fun row => lookupIn { entries := row } path
      | some _ => none

end Draft

/-- Reads the lines of a document. `fuel` bounds their number. -/
def lines? (fuel : Nat) (d : Draft) (cs : List Char) : Option OpenTable :=
  match fuel with
  | 0 => none
  | fuel + 1 =>
    match skipBlanks cs with
    | [] => d.settle
    | '[' :: '[' :: rest =>
      match key? rest with
      | some ((path, key), ']' :: ']' :: rest) => do
        let rest ← lineEnd? rest
        lines? fuel (← d.beginRow path key) rest
      | _ => none
    | '[' :: rest =>
      match key? rest with
      | some ((path, key), ']' :: rest) => do
        let rest ← lineEnd? rest
        lines? fuel (← d.beginTable path key) rest
      | _ => none
    | c :: rest =>
      if c == '#' || c == '\n' || c == '\r' then do
        lines? fuel d (← lineEnd? (c :: rest))
      else
        match key? (c :: rest) with
        | some ((path, key), '=' :: rest) => do
          let (value, rest) ← value? (2 * rest.length + 2) 0 (skipBlanks rest)
          let current ← d.current.addEntry path key value
          lines? fuel { d with current } (← lineEnd? rest)
        | _ => none

/-- Reads a TOML text, which may start with a byte order mark. -/
def read? (s : String) : Option Node :=
  let cs := match s.toList with
    | '\ufeff' :: rest => rest
    | cs => cs
  (lines? (cs.length + 1) {} cs).map fun t => .table false false t.entries

end Courier.Toml
