import Courier.Yaml.Lexer
import Courier.Yaml.Node

/-!
# From tokens to values

A text holds one document. Content may be missing wherever a node is due; it is then an empty plain
scalar.
-/

namespace Courier.Yaml

/-- A document part of the way through. -/
structure Progress where
  rest : List Token
  numbers : AnchorNumbers := []

/-- A reader of a part of a document. -/
abbrev Reader := StateT Progress Option

namespace Reader

/-- The next token, if there is one. -/
def peek : Reader (Option Token) := do
  return (← get).rest.head?

/-- Goes on after the next token. -/
def skip : Reader Unit :=
  modify fun s => { s with rest := s.rest.drop 1 }

/-- Goes on after the next token, which has to be this one. -/
def expect (t : Token) : Reader Unit := do
  if (← peek) = some t then skip else failure

/-- Goes on after the next token if it is this one; tells whether it was. -/
def accept (t : Token) : Reader Bool := do
  let found := (← peek) = some t
  if found then skip
  return found

/-- Gives a name of an anchor its number. -/
def number (name : String) : Reader Nat :=
  modifyGet fun s =>
    let (n, numbers) := s.numbers.given name
    (n, { s with numbers })

end Reader

/-- Missing content. -/
def Node.missing : Node :=
  .scalar none none .plain ""

/-- What tag handles stand for in a document without directives. -/
def defaultHandles : List (String × String) :=
  [("!", "!"), ("!!", "tag:yaml.org,2002:")]

/-- The marks before a node. -/
structure Marks where
  anchor : Option Nat := none
  tag : Option String := none

open Reader

/-- Reads content that is missing if one of these tokens comes next. -/
def unlessBefore (ends : List Token) (content : Reader Node) : Reader Node := do
  if (← peek).any ends.contains then return .missing else content

/-- Reads the marks before a node: an anchor and a tag, in either order. -/
def marks (handles : List (String × String)) : Reader Marks := do
  let tagText (handle suffix : String) : Reader String := do
    if handle = "" then return suffix
    match handles.lookup handle with
    | some start => return start ++ suffix
    | none => failure
  match ← peek with
  | some (.anchor name) => do
    skip
    match ← peek with
    | some (.tag handle suffix) => do
      skip
      let tag ← tagText handle suffix
      return { anchor := ← number name, tag }
    | _ => return { anchor := ← number name }
  | some (.tag handle suffix) => do
    skip
    let tag ← tagText handle suffix
    match ← peek with
    | some (.anchor name) => do
      skip
      return { anchor := ← number name, tag }
    | _ => return { tag }
  | _ => return {}

mutual

/-- Reads a node. `block` allows it to begin a block and `dashes` to be a row of items without a
block of their own. `fuel` bounds the number of steps. -/
def node (handles : List (String × String)) (fuel : Nat) (block dashes : Bool) : Reader Node :=
  match fuel with
  | 0 => failure
  | fuel + 1 => do
    match ← peek with
    | some (.reference name) => do
      skip
      match (← get).numbers.lookup name with
      | some n => return .reference n
      | none => failure
    | _ => do
      let m ← marks handles
      match ← peek with
      | some (.scalar style text) => do
        skip
        return .scalar m.anchor m.tag style text
      | some .flowSequence => do
        skip
        return .sequence m.anchor (← flowItems handles fuel true)
      | some .flowMapping => do
        skip
        return .mapping m.anchor (← flowEntries handles fuel true)
      | t =>
        if dashes && t = some .blockEntry then
          return .sequence m.anchor (← dashItems handles fuel)
        else if block && t = some .blockSequence then do
          skip
          return .sequence m.anchor (← blockItems handles fuel)
        else if block && t = some .blockMapping then do
          skip
          return .mapping m.anchor (← blockEntries handles fuel)
        -- Marks alone stand for missing content.
        else if m.anchor.isSome || m.tag.isSome then
          return .scalar m.anchor m.tag .plain ""
        else failure

/-- Reads the items of a sequence in brackets up to its end. All but the first follow a comma, and
one more comma may follow the last. -/
def flowItems (handles : List (String × String)) (fuel : Nat) (first : Bool) :
    Reader (List Node) :=
  match fuel with
  | 0 => failure
  | fuel + 1 => do
    if ← accept .flowSequenceEnd then return []
    unless first do expect .flowEntry
    if ← accept .flowSequenceEnd then return []
    let item ← if ← accept .key then pair handles fuel else node handles fuel false false
    return item :: (← flowItems handles fuel false)

/-- Reads a key with its value among the items of a sequence; it is a map of its own. A key that is
missing takes the next token with it. -/
def pair (handles : List (String × String)) (fuel : Nat) : Reader Node :=
  match fuel with
  | 0 => failure
  | fuel + 1 => do
    let missing := (← peek).any [.value, .flowEntry, .flowSequenceEnd].contains
    if missing then skip
    let key ← if missing then pure .missing else node handles fuel false false
    let value ←
      if ← accept .value then
        unlessBefore [.flowEntry, .flowSequenceEnd] (node handles fuel false false)
      else pure .missing
    return .mapping none [(key, value)]

/-- Reads the entries of a map in braces up to its end. -/
def flowEntries (handles : List (String × String)) (fuel : Nat) (first : Bool) :
    Reader (List (Node × Node)) :=
  match fuel with
  | 0 => failure
  | fuel + 1 => do
    if ← accept .flowMappingEnd then return []
    unless first do expect .flowEntry
    if ← accept .flowMappingEnd then return []
    if ← accept .key then
      let key ← unlessBefore [.value, .flowEntry, .flowMappingEnd] (node handles fuel false false)
      let value ←
        if ← accept .value then
          unlessBefore [.flowEntry, .flowMappingEnd] (node handles fuel false false)
        else pure .missing
      return (key, value) :: (← flowEntries handles fuel false)
    else
      let key ← node handles fuel false false
      return (key, .missing) :: (← flowEntries handles fuel false)

/-- Reads the items of a block up to its end. -/
def blockItems (handles : List (String × String)) (fuel : Nat) : Reader (List Node) :=
  match fuel with
  | 0 => failure
  | fuel + 1 => do
    if ← accept .blockEnd then return []
    expect .blockEntry
    let item ← unlessBefore [.blockEntry, .blockEnd] (node handles fuel true false)
    return item :: (← blockItems handles fuel)

/-- Reads the items of a row that has no block of its own. -/
def dashItems (handles : List (String × String)) (fuel : Nat) : Reader (List Node) :=
  match fuel with
  | 0 => failure
  | fuel + 1 => do
    if ← accept .blockEntry then
      let item ←
        unlessBefore [.blockEntry, .key, .value, .blockEnd] (node handles fuel true false)
      return item :: (← dashItems handles fuel)
    else return []

/-- Reads the entries of a block up to its end. -/
def blockEntries (handles : List (String × String)) (fuel : Nat) : Reader (List (Node × Node)) :=
  match fuel with
  | 0 => failure
  | fuel + 1 => do
    if ← accept .blockEnd then return []
    expect .key
    let key ← unlessBefore [.key, .value, .blockEnd] (node handles fuel true true)
    let value ←
      if ← accept .value then
        unlessBefore [.key, .value, .blockEnd] (node handles fuel true true)
      else pure .missing
    return (key, value) :: (← blockEntries handles fuel)

end

/-- What tag handles stand for by the directives of a document, of which none may be repeated; the
version has to be 1.1 or 1.2. -/
def handles? (directives : List Token) : Option (List (String × String)) :=
  let versions := directives.filterMap fun
    | .version major minor => some (major, minor)
    | _ => none
  let given := directives.filterMap fun
    | .tagHandle handle start => some (handle, start)
    | _ => none
  if versions.length ≤ 1 && versions.all [(1, 1), (1, 2)].contains &&
      (given.map Prod.fst).Nodup then
    some (given ++ defaultHandles)
  else none

/-- A directive. -/
def Token.isDirective : Token → Bool
  | .version .. => true
  | .tagHandle .. => true
  | _ => false

/-- Reads the content of a document that has a marker at its start. -/
def markedContent (handles : List (String × String)) (fuel : Nat) : Reader Node := do
  match ← peek with
  | some t =>
    if t.isDirective || t = .documentStart || t = .documentEnd then return .missing
    else node handles fuel true false
  | none => return .missing

/-- Reads the one document of a text. -/
def document? (tokens : List Token) : Option Node := do
  let fuel := 4 * tokens.length + 4
  if tokens.isEmpty then return .void
  let directives := tokens.takeWhile Token.isDirective
  let handles ← handles? directives
  let content := tokens.dropWhile Token.isDirective
  let (root, progress) ←
    if content.head? = some .documentStart then
      (markedContent handles fuel).run { rest := content.drop 1 }
    else if directives.isEmpty then (node handles fuel true false).run { rest := content }
    else none
  -- A second document would have a marker of its start.
  if progress.rest.all (· = .documentEnd) then return root else none

/-- Reads a YAML text. -/
def read? (s : String) : Option Node :=
  (tokens? s.toList).bind document?

end Courier.Yaml
