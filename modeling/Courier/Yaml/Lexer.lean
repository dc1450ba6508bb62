import Courier.Yaml.Token

/-!
# From characters to tokens

Outside brackets and braces the indentation says where blocks begin and end. A node that stands
where a key may stand is noted as a possible key: whether it is one shows only at the colon behind
it, which has to come in the same line and within 1024 bytes.
-/

namespace Courier.Yaml

/-- A node that a colon would make a key. -/
structure PossibleKey where
  /-- Nothing but a key can stand here. -/
  required : Bool
  /-- How many tokens there were before the node. -/
  number : Nat
  index : Nat
  line : Nat
  column : Nat

/-- How many bytes there may be from the start of a key to its colon. -/
def keySpan : Nat := 1024

/-- A text part of the way to its tokens. -/
structure Lexer where
  rest : List Glyph
  /-- The tokens so far, the last first. -/
  tokens : List Token := []
  /-- Their number. -/
  count : Nat := 0
  /-- The indentation of the block that the text is in; -1 outside all blocks. -/
  indent : Int := -1
  /-- The indentations of the blocks around it, the nearest first. -/
  outer : List Int := []
  /-- The possible key of this level of brackets. -/
  possible : Option PossibleKey := none
  /-- The possible keys of the levels around it, the nearest first. -/
  levels : List (Option PossibleKey) := []
  /-- A key may begin here. -/
  mayBeKey : Bool := true

namespace Lexer

/-- The text is inside brackets or braces. -/
def inFlow (s : Lexer) : Bool :=
  !s.levels.isEmpty

/-- Adds a token. -/
def push (t : Token) (s : Lexer) : Lexer :=
  { s with tokens := t :: s.tokens, count := s.count + 1 }

/-- Adds a token behind the first ones. -/
def insert (number : Nat) (t : Token) (s : Lexer) : Lexer :=
  { s with tokens := s.tokens.insertIdx (s.count - number) t, count := s.count + 1 }

/-- Goes on with the text after an indicator. -/
def skip (count : Nat) (s : Lexer) : Lexer :=
  { s with rest := s.rest.drop count }

/-! ## Blocks -/

/-- Ends the blocks that are indented further than a column. -/
def endBlocks (column : Int) (s : Lexer) : Lexer :=
  if s.inFlow then s
  else
    let ended := (s.indent :: s.outer).takeWhile (column < ·)
    match (s.indent :: s.outer).dropWhile (column < ·) with
    | indent :: outer =>
      { s with
        tokens := ended.map (fun _ => .blockEnd) ++ s.tokens
        count := s.count + ended.length
        indent, outer }
    | [] => s

/-- Begins a block at a column if it is indented further than the block around. -/
def beginBlock (column number : Nat) (t : Token) (s : Lexer) : Lexer :=
  if !s.inFlow && s.indent < column then
    { s.insert number t with indent := column, outer := s.indent :: s.outer }
  else s

/-! ## Possible keys -/

/-- Gives up the possible key of this level; fails if there had to be a key. -/
def dropKey (s : Lexer) : Option Lexer :=
  if s.possible.any (·.required) then none else some { s with possible := none }

/-- Notes a node as a possible key if one may begin here. -/
def noteKey (g : Glyph) (s : Lexer) : Option Lexer :=
  if s.mayBeKey then do
    let s ← s.dropKey
    let key : PossibleKey :=
      { required := !s.inFlow && s.indent == g.column
        number := s.count
        index := g.index
        line := g.line
        column := g.column }
    return { s with possible := some key }
  else some s

/-- What becomes of a possible key at this character: nothing if it is too far away, which fails if
there had to be a key. -/
def keyAt (g : Glyph) (possible : Option PossibleKey) : Option (Option PossibleKey) :=
  match possible with
  | some key =>
    if key.line < g.line || key.index + keySpan < g.index then
      if key.required then none else some none
    else some possible
  | none => some none

/-- Gives up the possible keys that are too far from this character. -/
def dropStale (g : Glyph) (s : Lexer) : Option Lexer := do
  let possible ← keyAt g s.possible
  let levels ← s.levels.mapM (keyAt g)
  return { s with possible, levels }

/-! ## One token -/

/-- Goes to the next token: over blanks, comments and line breaks. A tab does not count as a blank
where a key may begin. -/
def toNext (s : Lexer) : Lexer :=
  let (rest, crossed) := go (s.inFlow || !s.mayBeKey) s.rest
  { s with rest, mayBeKey := s.mayBeKey || (crossed && !s.inFlow) }
where
  /-- The text at the next token, and whether a line ended before it. -/
  go (tabs : Bool) : List Glyph → List Glyph × Bool
    | [] => ([], false)
    | g :: rest =>
      if g.isBreak then
        let (rest, _) := go (tabs && s.inFlow) rest
        (rest, true)
      -- A byte order mark may start any line and takes up a column of it.
      else if g.char == ' ' || (tabs && g.char == '\t') ||
          (g.char == '\ufeff' && g.column == 0) then go tabs rest
      else if g.char == '#' then comment tabs rest
      else (g :: rest, false)
  /-- The same inside a comment. -/
  comment (tabs : Bool) : List Glyph → List Glyph × Bool
    | [] => ([], false)
    | g :: rest =>
      if g.isBreak then
        let (rest, _) := go (tabs && s.inFlow) rest
        (rest, true)
      else comment tabs rest

/-- Begins a node: notes it as a possible key and forbids another one right behind it. -/
def node (g : Glyph) (s : Lexer) : Option Lexer := do
  return { ← s.noteKey g with mayBeKey := false }

/-- Adds a token that was read, and goes on with the text after it. -/
def take (t : Token) (rest : List Glyph) (s : Lexer) : Lexer :=
  { s.push t with rest }

/-- A marker or directive, which ends all blocks. -/
def outside (s : Lexer) : Option Lexer := do
  return { ← (s.endBlocks (-1)).dropKey with mayBeKey := false }

/-- An opening bracket or brace. -/
def openFlow (t : Token) (g : Glyph) (s : Lexer) : Option Lexer := do
  let s ← s.noteKey g
  let s := { s with possible := none, levels := s.possible :: s.levels, mayBeKey := true }
  return (s.push t).skip 1

/-- A closing bracket or brace. -/
def closeFlow (t : Token) (s : Lexer) : Option Lexer := do
  let s ← s.dropKey
  let s := match s.levels with
    | possible :: levels => { s with possible, levels }
    | [] => s
  return ({ s with mayBeKey := false }.push t).skip 1

/-- The indicator of an item or of a key. Outside brackets it may begin a block. -/
def openBlock (block t : Token) (keyAfter : Bool) (g : Glyph) (s : Lexer) : Option Lexer := do
  if !s.inFlow && !s.mayBeKey then none
  else
    let s ← (s.beginBlock g.column s.count block).dropKey
    return ({ s with mayBeKey := keyAfter }.push t).skip 1

/-- A colon: it makes the possible key a key, or belongs to a key with an indicator. -/
def colon (g : Glyph) (s : Lexer) : Option Lexer :=
  match s.possible with
  | some key =>
    -- The block that the key begins comes before the mark of the key, and both before its tokens.
    let s := (s.insert key.number .key).beginBlock key.column key.number .blockMapping
    some (({ s with possible := none, mayBeKey := false }.push .value).skip 1)
  | none =>
    -- The key, if there is one, was begun by its own indicator.
    if !s.inFlow && !s.mayBeKey then none
    else
      let s := s.beginBlock g.column s.count .blockMapping
      some (({ s with mayBeKey := !s.inFlow }.push .value).skip 1)

/-- A block scalar after its indicator. -/
def blockScalar (style : Style) (rest : List Glyph) (s : Lexer) : Option Lexer := do
  let s ← s.dropKey
  let (text, rest) ← block? (style == .literal) s.indent rest
  return { s with mayBeKey := true }.take (.scalar style (String.ofList text)) rest

/-- A plain scalar. -/
def plainScalar (g : Glyph) (s : Lexer) : Option Lexer := do
  let s ← s.node g
  let r ← plainRest s.inFlow (s.indent + 1) [] .none s.rest
  return { s with mayBeKey := r.endsLine }.take (.scalar .plain (String.ofList r.text)) r.rest

/-- A character that no plain scalar starts with, or only if no blank follows. -/
def indicators : List Char :=
  ['-', '?', ':', ',', '[', ']', '\x7b', '\x7d', '#', '&', '*', '!', '|', '>', '\'', '"', '%', '@',
    '\x60']

/-- A plain scalar can start here. -/
def startsPlain (inFlow : Bool) (g : Glyph) (rest : List Glyph) : Bool :=
  let beforeBlank := match rest with
    | n :: _ => n.isBlank
    | [] => false
  !indicators.contains g.char && !g.isSpace || (g.char == '-' && !beforeBlank) ||
    (!inFlow && (g.char == '?' || g.char == ':') && !startsBlank rest)

/-- Reads the next token; the text starts with it. -/
def token (g : Glyph) (rest : List Glyph) (s : Lexer) : Option Lexer := do
  if g.char == '%' && g.column == 0 then
    let s ← s.outside
    let (t, rest) ← directive? rest
    return s.take t rest
  else if startsMarker '-' (g :: rest) then
    return ((← s.outside).push .documentStart).skip 3
  else if startsMarker '.' (g :: rest) then
    return ((← s.outside).push .documentEnd).skip 3
  else
    match g.char with
    | '[' => s.openFlow .flowSequence g
    | '\x7b' => s.openFlow .flowMapping g
    | ']' => s.closeFlow .flowSequenceEnd
    | '\x7d' => s.closeFlow .flowMappingEnd
    | ',' => return ({ ← s.dropKey with mayBeKey := true }.push .flowEntry).skip 1
    | '*' =>
      let (name, rest) ← anchorName? rest
      return (← s.node g).take (.reference name) rest
    | '&' =>
      let (name, rest) ← anchorName? rest
      return (← s.node g).take (.anchor name) rest
    | '!' =>
      let (t, rest) ← tag? s.inFlow rest
      return (← s.node g).take t rest
    | '\'' =>
      let (text, rest) ← singleRest [] .none rest
      return (← s.node g).take (.scalar .singleQuoted (String.ofList text)) rest
    | '"' =>
      let (text, rest) ← doubleRest [] .none .none rest
      return (← s.node g).take (.scalar .doubleQuoted (String.ofList text)) rest
    | c =>
      if c == '-' && startsBlank rest then s.openBlock .blockSequence .blockEntry true g
      else if c == '?' && (s.inFlow || startsBlank rest) then
        s.openBlock .blockMapping .key (!s.inFlow) g
      else if c == ':' && (s.inFlow || startsBlank rest) then s.colon g
      else if c == '|' && !s.inFlow then s.blockScalar .literal rest
      else if c == '>' && !s.inFlow then s.blockScalar .folded rest
      else if startsPlain s.inFlow g rest then s.plainScalar g
      else none

/-- Reads all tokens; `fuel` bounds their number. -/
def toEnd (fuel : Nat) (s : Lexer) : Option (List Token) :=
  match fuel with
  | 0 => none
  | fuel + 1 =>
    let s := s.toNext
    match s.rest with
    | [] => do
      let s ← (s.endBlocks (-1)).dropKey
      return s.tokens.reverse
    | g :: rest => do
      let s ← s.dropStale g
      -- The token stands outside all blocks that are indented further than itself.
      let s ← (s.endBlocks g.column).token g rest
      toEnd fuel s

end Lexer

/-- The tokens of a text. Each takes up at least one character. -/
def tokens? (cs : List Char) : Option (List Token) := do
  let gs ← glyphs? cs
  Lexer.toEnd (gs.length + 1) { rest := gs }

end Courier.Yaml
