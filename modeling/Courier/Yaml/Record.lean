import Courier.Record.Tree
import Courier.Yaml.Reader

/-!
# YAML values as data trees

A record is a map, and never a sequence of its values. Missing content stands for an empty sequence
or an empty map as well as for a missing value. Any scalar is a text; a number has to be plain, or a
literal block with the tag of integers.

References can make a small document stand for a very large value. So only a number of them is
followed that is in proportion to the document; content that is not looked into does not count.
-/

namespace Courier.Yaml

/-- Looking into a document, with the number of references that may still be followed. -/
abbrev Looking := StateT Nat Option

/-- A node within its document. -/
structure View where
  /-- The nodes of the document that have anchors, the last first. -/
  anchored : List (Nat × Node)
  node : Node

namespace View

/-- The node, or the one that it refers to. -/
def target (v : View) : Looking Node := do
  match v.node with
  | .reference anchor =>
    match ← get, v.anchored.lookup anchor with
    | left + 1, some node =>
      set left
      return node
    | _, _ => failure
  | node => return node

/-- Another node of the document. -/
def other (v : View) (node : Node) : View :=
  { v with node }

/-- The text of a scalar. -/
def text (v : View) : Looking String := do
  match ← v.target with
  | .scalar _ _ _ text => return text
  | _ => failure

/-- The tag of null. -/
def nullTag : String := "tag:yaml.org,2002:null"

/-- The tag of integers. -/
def integerTag : String := "tag:yaml.org,2002:int"

/-- The words for null. -/
def isNullWord (s : String) : Bool :=
  ["null", "Null", "NULL", "~"].contains s

/-- The number of a row of digits to a base. -/
def radix? (base : Nat) (cs : List Char) : Option Nat :=
  let digits := cs.map Json.hexValue?
  if cs.isEmpty || !digits.all (·.any (· < base)) then none
  else some (digits.foldl (fun n d => base * n + d.getD 0) 0)

/-- The natural number of a text: digits with no zero in front, or hexadecimal, octal or binary
digits; a plus sign may come first. -/
def naturalOf? (s : String) : Option Nat :=
  let cs := match s.toList with
    | '+' :: rest => rest
    | cs => cs
  match cs with
  | '0' :: 'x' :: rest => radix? 16 rest
  | '0' :: 'o' :: rest => radix? 8 rest
  | '0' :: 'b' :: rest => radix? 2 rest
  | '0' :: _ :: _ => none
  | cs => radix? 10 cs

/-- The natural number of a scalar. -/
def natural (v : View) : Looking Nat := do
  match ← v.target with
  | .scalar _ tag style text =>
    if style = .plain || (style = .literal && tag = some integerTag) then naturalOf? text
    else failure
  | _ => failure

/-- Whether a node is missing content or null. What has the tag of null has to be a word for it. -/
def isMissing? : Node → Option Bool
  | .scalar _ tag .plain text =>
    match tag with
    | some tag =>
      if tag = nullTag then if isNullWord text then some true else none
      -- With any other tag even a word for null is content.
      else some false
    | none => some (text = "" || isNullWord text)
  | .void => some true
  | _ => some false

/-- The node, or the one that it refers to, unless it is missing. -/
def unlessMissing (v : View) : Looking (Option View) := do
  let node ← v.target
  return if ← isMissing? node then none else some (v.other node)

/-- Content that is empty. -/
def isEmpty : Node → Bool
  | .scalar _ _ .plain text => text = ""
  | .void => true
  | _ => false

/-- The items of a sequence. -/
def items (v : View) : Looking (List View) := do
  match ← v.target with
  | .sequence _ items => return items.map v.other
  | node => if isEmpty node then return [] else failure

/-- The entries of a map whose keys are scalars. -/
def entries (v : View) : Looking (List (String × View)) := do
  let read (entry : Node × Node) : Looking (String × View) :=
    return (← (v.other entry.1).text, v.other entry.2)
  match ← v.target with
  | .mapping _ entries => entries.mapM read
  | node => if isEmpty node then return [] else failure

/-- The fields of a record. -/
def slots (fields : List String) (v : View) : Looking (String → Record.Slot View) := do
  Record.slotsOfEntries? fields (← v.entries)

instance : Record.DataTree Looking View where
  text := text
  natural := natural
  unlessMissing := unlessMissing
  items := items
  entries := entries
  slots := slots

end View

/-- How many references may be followed for each part of a document. -/
def referencesPerPart : Nat := 100

/-- Reads a YAML text and decodes what it holds. -/
def decode? {α : Type} (decode : View → Looking α) (s : String) : Option α := do
  let root ← read? s
  (decode ⟨root.anchored.reverse, root⟩).run' (referencesPerPart * root.partCount)

end Courier.Yaml
