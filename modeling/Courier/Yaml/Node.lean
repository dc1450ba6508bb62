import Courier.Yaml.Token

/-!
# YAML values

A document is a tree of scalars, sequences and maps. A node may carry an anchor, and another node
may refer to it. Anchors have numbers: one gets the number of names there are so far, so that a name
that is given again moves on to a new number. A reference stands for the last node of the whole
document that carries its number.
-/

namespace Courier.Yaml

/-- A node of a document. -/
inductive Node where
  | scalar (anchor : Option Nat) (tag : Option String) (style : Style) (text : String)
  | sequence (anchor : Option Nat) (items : List Node)
  | mapping (anchor : Option Nat) (entries : List (Node × Node))
  | reference (anchor : Nat)
  /-- The content of an empty document. -/
  | void

/-- The numbers of anchors by their names. -/
abbrev AnchorNumbers := List (String × Nat)

namespace AnchorNumbers

/-- The number for an anchor of this name, and the numbers of all names after it. -/
def given (name : String) (numbers : AnchorNumbers) : Nat × AnchorNumbers :=
  (numbers.length, (name, numbers.length) :: numbers.filter (·.1 ≠ name))

end AnchorNumbers

namespace Node

/-- A node under its anchor, if it has one, in front of others. -/
def underAnchor (anchor : Option Nat) (node : Node) (others : List (Nat × Node)) :
    List (Nat × Node) :=
  match anchor with
  | some n => (n, node) :: others
  | none => others

mutual

/-- The nodes with anchors, in the order in which they begin. -/
def anchored : Node → List (Nat × Node)
  | scalar anchor tag style text => underAnchor anchor (scalar anchor tag style text) []
  | sequence anchor items => underAnchor anchor (sequence anchor items) (anchoredItems items)
  | mapping anchor entries => underAnchor anchor (mapping anchor entries) (anchoredEntries entries)
  | reference _ => []
  | void => []

/-- The nodes with anchors in a row of nodes. -/
def anchoredItems : List Node → List (Nat × Node)
  | [] => []
  | n :: rest => anchored n ++ anchoredItems rest

/-- The nodes with anchors among keys and values. -/
def anchoredEntries : List (Node × Node) → List (Nat × Node)
  | [] => []
  | (key, value) :: rest => anchored key ++ (anchored value ++ anchoredEntries rest)

end

mutual

/-- How many parts the node is written with: one for a scalar or a reference, and two around the
content of a sequence or map. -/
def partCount : Node → Nat
  | sequence _ items => partCountOfItems items + 2
  | mapping _ entries => partCountOfEntries entries + 2
  | _ => 1

/-- The number of parts in a row of nodes. -/
def partCountOfItems : List Node → Nat
  | [] => 0
  | n :: rest => partCount n + partCountOfItems rest

/-- The number of parts of keys and values. -/
def partCountOfEntries : List (Node × Node) → Nat
  | [] => 0
  | (key, value) :: rest => partCount key + (partCount value + partCountOfEntries rest)

end

end Node

end Courier.Yaml
