import Courier.Json.Token
import Courier.Yaml.Glyph

/-!
# Scalars

The texts of YAML come without quotes, in single or double quotes, or as blocks of lines. Within a
text of several lines a single line break becomes a space, and of several line breaks the first is
left out; a block can also keep its lines as they are.
-/

namespace Courier.Yaml

/-- How a scalar is written. -/
inductive Style where
  | plain
  | singleQuoted
  | doubleQuoted
  | literal
  | folded
deriving DecidableEq, Repr

/-- What stands between two parts of a text. -/
inductive Gap where
  | none
  /-- Blanks in one line, the last first. -/
  | blanks (before : List Char)
  /-- Line breaks, the last of those after the first one first; the first one is missing if it was
  escaped. Blanks around them do not count. -/
  | breaks (first : Option Char) (more : List Char)

namespace Gap

/-- What the gap contributes to the text, the last character first. -/
def folded : Gap → List Char
  | .none => []
  | .blanks before => before
  | .breaks (some '\n') [] => [' ']
  | .breaks (some '\n') more => more
  | .breaks (some c) more => more ++ [c]
  | .breaks Option.none more => more

/-- The gap after one more blank. -/
def addBlank (c : Char) : Gap → Gap
  | .none => .blanks [c]
  | .blanks before => .blanks (c :: before)
  | gap => gap

/-- The gap after one more line break. -/
def addBreak (c : Char) : Gap → Gap
  | .breaks first more => .breaks first (c :: more)
  | _ => .breaks (some c) []

/-- The gap goes over the end of a line. -/
def hasBreak : Gap → Bool
  | .breaks .. => true
  | _ => false

end Gap

/-! ## Plain scalars -/

/-- A character that ends a plain scalar between brackets or braces. -/
def isFlowIndicator (c : Char) : Bool :=
  c == ',' || c == '[' || c == ']' || c == '\x7b' || c == '\x7d'

/-- A plain scalar that was read. -/
structure PlainReading where
  text : List Char
  /-- The scalar is followed by the end of a line. -/
  endsLine : Bool
  rest : List Glyph

/-- Ends a plain scalar before the rest of the text. -/
def endPlain (before : List Char) (gap : Gap) (rest : List Glyph) :
    Option PlainReading :=
  some ⟨before.reverse, gap.hasBreak, rest⟩

/-- Reads a plain scalar. It ends before a comment, the marker of a document, a colon with a blank
after it, an indicator of the flow style inside that style, and a line of less indentation outside
it. `before` holds what was read, the nearest first. -/
def plainRest (inFlow : Bool) (indent : Int) (before : List Char) (gap : Gap) :
    List Glyph → Option PlainReading
  | [] => endPlain before gap []
  | g :: rest =>
    if g.isBreak then plainRest inFlow indent before (gap.addBreak g.char) rest
    else if g.isBlank then
      -- A tab may not stand where indentation is due.
      if gap.hasBreak && g.column < indent && g.char == '\t' then none
      else plainRest inFlow indent before (gap.addBlank g.char) rest
    else
      match gap with
      -- Right after another character a `#` belongs to the scalar.
      | .none =>
        if g.char == ':' && startsBlank rest then endPlain before gap (g :: rest)
        else if inFlow && g.char == ':' && startsIndicator rest then none
        else if inFlow && isFlowIndicator g.char then endPlain before gap (g :: rest)
        else plainRest inFlow indent (g.char :: before) .none rest
      | gap =>
        if !inFlow && g.column < indent then endPlain before gap (g :: rest)
        else if startsDocumentMarker (g :: rest) || g.char == '#' then
          endPlain before gap (g :: rest)
        else if inFlow && g.char == ':' && startsIndicator rest then none
        else if g.char == ':' && startsBlank rest then endPlain before gap (g :: rest)
        else if inFlow && isFlowIndicator g.char then endPlain before gap (g :: rest)
        else plainRest inFlow indent (g.char :: (gap.folded ++ before)) .none rest
where
  /-- An indicator that a colon in the flow style may not directly precede. -/
  startsIndicator : List Glyph → Bool
    | g :: _ => isFlowIndicator g.char || g.char == '?'
    | [] => false

/-! ## Quoted scalars -/

/-- Reads a scalar in single quotes up to its end; a quote in it is written twice. -/
def singleRest (before : List Char) (gap : Gap) : List Glyph → Option (List Char × List Glyph)
  | [] => none
  | q :: g :: rest =>
    if q.char == '\'' && g.char == '\'' then singleRest ('\'' :: (gap.folded ++ before)) .none rest
    else if q.char == '\'' then some ((gap.folded ++ before).reverse, g :: rest)
    else if q.isBreak then singleRest before (gap.addBreak q.char) (g :: rest)
    else if q.isBlank then singleRest before (gap.addBlank q.char) (g :: rest)
    else if startsDocumentMarker (q :: g :: rest) then none
    else singleRest (q.char :: (gap.folded ++ before)) .none (g :: rest)
  | [q] => if q.char == '\'' then some ((gap.folded ++ before).reverse, []) else none

/-- The character an escape of one letter stands for. -/
def letterEscape? : Char → Option Char
  | '0' => some '\x00'
  | 'a' => some '\x07'
  | 'b' => some '\x08'
  | 't' => some '\t'
  | '\t' => some '\t'
  | 'n' => some '\n'
  | 'v' => some '\x0b'
  | 'f' => some '\x0c'
  | 'r' => some '\r'
  | 'e' => some '\x1b'
  | ' ' => some ' '
  | '"' => some '"'
  | '/' => some '/'
  | '\\' => some '\\'
  | 'N' => some '\x85'
  | '_' => some '\xa0'
  | 'L' => some '\u2028'
  | 'P' => some '\u2029'
  | _ => none

/-- How many hexadecimal digits follow this letter of an escape. -/
def hexEscape? : Char → Option Nat
  | 'x' => some 2
  | 'u' => some 4
  | 'U' => some 8
  | _ => none

/-- What a scalar in double quotes is in the middle of. -/
inductive Escape where
  | none
  /-- An escape by code point, with digits to come and the value so far. -/
  | hex (digits : Nat) (value : Nat)

/-- The character with this code point. -/
def scalar? (code : Nat) : Option Char :=
  if h : code.isValidChar then some (Char.ofNatAux code h) else Option.none

/-- Reads a scalar in double quotes up to its end. -/
def doubleRest (before : List Char) (gap : Gap) (escape : Escape) :
    List Glyph → Option (List Char × List Glyph)
  | [] => Option.none
  | g :: rest =>
    match escape with
    | .hex digits value =>
      match Json.hexValue? g.char with
      | Option.none => Option.none
      | some d =>
        let value := 16 * value + d
        if digits ≤ 1 then
          match scalar? value with
          | some c => doubleRest (c :: before) .none .none rest
          | Option.none => Option.none
        else doubleRest before .none (.hex (digits - 1) value) rest
    | .none =>
      if g.char == '"' then some ((gap.folded ++ before).reverse, rest)
      else if g.isBreak then doubleRest before (gap.addBreak g.char) .none rest
      else if g.isBlank then doubleRest before (gap.addBlank g.char) .none rest
      else if startsDocumentMarker (g :: rest) then Option.none
      else if g.char == '\\' then
        match rest with
        | [] => Option.none
        | e :: rest =>
          let before := gap.folded ++ before
          -- An escaped line break leaves no space behind, but empty lines after it still count.
          if e.isBreak then doubleRest before (.breaks Option.none []) .none rest
          else
            match letterEscape? e.char, hexEscape? e.char with
            | some c, _ => doubleRest (c :: before) .none .none rest
            | Option.none, some digits => doubleRest before .none (.hex digits 0) rest
            | Option.none, Option.none => Option.none
      else doubleRest (g.char :: (gap.folded ++ before)) .none .none rest

/-! ## Block scalars -/

/-- What becomes of the line breaks at the end of a block. -/
inductive Chomping where
  /-- All are left out. -/
  | strip
  /-- The first is kept. -/
  | clip
  /-- All are kept. -/
  | keep
deriving DecidableEq, Repr

/-- The head of a block scalar. -/
structure BlockHead where
  chomping : Chomping := .clip
  /-- The indentation relative to the surrounding block, if it is given. -/
  increment : Option Nat := none

/-- Reads the signs after the indicator of a block: a chomping sign and a digit from 1 to 9, in
either order. -/
def blockHead? (gs : List Glyph) : Option (BlockHead × List Glyph) :=
  let chomping? (g : Glyph) : Option Chomping :=
    if g.char == '+' then some .keep else if g.char == '-' then some .strip else none
  let isDigit (g : Glyph) : Bool := '0' ≤ g.char && g.char ≤ '9'
  match gs with
  | g :: rest =>
    match chomping? g with
    | some chomping =>
      match rest with
      | d :: rest' =>
        if isDigit d then
          if d.char == '0' then none else some (⟨chomping, some (d.char.toNat - 48)⟩, rest')
        else some (⟨chomping, none⟩, rest)
      | [] => some (⟨chomping, none⟩, [])
    | none =>
      if isDigit g then
        if g.char == '0' then none
        else
          let increment := some (g.char.toNat - 48)
          match rest with
          | s :: rest' =>
            match chomping? s with
            | some chomping => some (⟨chomping, increment⟩, rest')
            | none => some (⟨.clip, increment⟩, rest)
          | [] => some (⟨.clip, increment⟩, [])
      else some ({}, gs)
  | [] => some ({}, [])

/-- A block scalar part of the way through. -/
structure Block where
  isLiteral : Bool
  /-- The indentation of the block around. -/
  outer : Int
  /-- The indentation of the lines, once it is known. -/
  indent : Option Nat
  /-- The widest indentation of the empty lines so far. -/
  widest : Nat := 0
  /-- The reading is inside a line and not in the indentation or in empty lines. -/
  inLine : Bool := false
  /-- The text, the last character first. -/
  before : List Char := []
  /-- The line break after the last line. -/
  lastBreak : Option Char := none
  /-- The line breaks of the empty lines after it, the last first. -/
  emptyBreaks : List Char := []
  /-- The last line starts with a blank. -/
  startsBlank : Bool := false

namespace Block

/-- The indentation of the lines, found by the widest empty line if it is not known. -/
def settled (b : Block) (column : Nat) : Nat :=
  match b.indent with
  | some n => n
  | none => max (max b.widest column) (max (b.outer + 1).toNat 1)

/-- The text after the line breaks before a new line. In a folded block a single break between two
lines that do not start with a blank becomes a space. -/
def joined (b : Block) (blank : Bool) : List Char :=
  match b.lastBreak with
  | some c =>
    if !b.isLiteral && c == '\n' && !b.startsBlank && !blank then
      if b.emptyBreaks.isEmpty then ' ' :: b.before else b.emptyBreaks ++ b.before
    else b.emptyBreaks ++ c :: b.before
  | none => b.emptyBreaks ++ b.before

/-- The whole text. -/
def text (b : Block) (chomping : Chomping) : List Char :=
  let last := b.lastBreak.toList
  match chomping with
  | .strip => b.before.reverse
  | .clip => (last ++ b.before).reverse
  | .keep => (b.emptyBreaks ++ last ++ b.before).reverse

/-- Reads the lines of a block; gives what was read and the rest of the text. A tab may not stand
where indentation is due. -/
def lines (b : Block) : List Glyph → Option (Block × List Glyph)
  | [] => some (b, [])
  | g :: rest =>
    if b.inLine then
      if g.isBreak then
        lines { b with inLine := false, lastBreak := some g.char, widest := 0 } rest
      else lines { b with before := g.char :: b.before } rest
    else
      let indenting := match b.indent with
        | some n => g.column < n
        | none => true
      if indenting && g.char == ' ' then lines b rest
      else if indenting && g.char == '\t' then none
      else if g.isBreak then
        lines { b with
          emptyBreaks := g.char :: b.emptyBreaks, widest := max b.widest g.column } rest
      else
        -- The first line with text settles the indentation; a line of less ends the block.
        let indent := b.settled g.column
        let b := { b with indent := some indent }
        if g.column == indent then
          lines { b with
            inLine := true
            before := g.char :: b.joined g.isBlank
            lastBreak := none
            emptyBreaks := []
            startsBlank := g.isBlank } rest
        else some (b, g :: rest)

end Block

/-- Reads a block scalar after its indicator. -/
def block? (isLiteral : Bool) (outer : Int) (gs : List Glyph) :
    Option (List Char × List Glyph) := do
  let (head, rest) ← blockHead? gs
  let rest ← lineEnd? rest
  let start : Block :=
    { isLiteral, outer, indent := head.increment.map fun n => (max outer 0).toNat + n }
  let (b, rest) ← start.lines rest
  return (b.text head.chomping, rest)

end Courier.Yaml
