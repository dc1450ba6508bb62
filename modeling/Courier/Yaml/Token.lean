import Courier.Text.Decimal
import Courier.Yaml.Scalar

/-!
# Tokens

What a YAML text consists of: brackets and indicators, the begin and end of blocks, which follow
from the indentation, scalars, and the marks before a node: its anchor and its tag.
-/

namespace Courier.Yaml

/-- A token of a text. -/
inductive Token where
  | version (major minor : Nat)
  | tagHandle (handle start : String)
  | documentStart
  | documentEnd
  | blockSequence
  | blockMapping
  | blockEnd
  | flowSequence
  | flowSequenceEnd
  | flowMapping
  | flowMappingEnd
  /-- A comma. -/
  | flowEntry
  /-- A minus sign. -/
  | blockEntry
  | key
  | value
  | reference (anchor : String)
  | anchor (name : String)
  | tag (handle suffix : String)
  | scalar (style : Style) (text : String)
deriving DecidableEq, Repr

/-! ## Anchors -/

/-- The name of an anchor ends before a blank or one of these characters. -/
def endsAnchor (gs : List Glyph) : Bool :=
  startsBlank gs ||
    match gs with
    | g :: _ => ['?', ':', ',', ']', '\x7d', '%', '@', '\x60'].contains g.char
    | [] => true

/-- Reads the name of an anchor. -/
def anchorName? (gs : List Glyph) : Option (String × List Glyph) :=
  let name := gs.takeWhile Glyph.isWord
  let rest := gs.dropWhile Glyph.isWord
  if !name.isEmpty && endsAnchor rest then some (textOf name, rest) else none

/-! ## Tags -/

/-- The signs that any tag may hold. -/
def tagSigns : List Char :=
  ['-', '_', ';', '/', '?', ':', '@', '&', '=', '+', '$', '.', '%', '!', '~', '*', '\'', '(', ')']

/-- A character of a tag. In full tags commas and square brackets count as well. -/
def isTagGlyph (full : Bool) (g : Glyph) : Bool :=
  g.char.isAlphanum ||
    tagSigns.contains g.char ||
    (full && [',', '[', ']'].contains g.char)

/-- How many octets the UTF-8 form of a character has that starts with this octet. -/
def octetCount? (first : Nat) : Option Nat :=
  if first < 0x80 then some 1
  else if first < 0xC0 then none
  else if first < 0xE0 then some 2
  else if first < 0xF0 then some 3
  else if first < 0xF8 then some 4
  else none

/-- Replaces escapes in the text of a tag: an escaped octet becomes the character of its number.
`octets` is how many more octets belong to the character that was begun. -/
def unescape? (octets : Nat) : List Char → Option (List Char)
  | '%' :: h :: l :: rest => do
    let octet := 16 * (← Json.hexValue? h) + (← Json.hexValue? l)
    let more ←
      if octets = 0 then (octetCount? octet).map (· - 1)
      else if 0x80 ≤ octet && octet < 0xC0 then some (octets - 1)
      else none
    (unescape? more rest).map (Char.ofNat octet :: ·)
  | c :: rest => if c == '%' || octets ≠ 0 then none else (unescape? 0 rest).map (c :: ·)
  | [] => if octets = 0 then some [] else none

/-- The text of a tag as far as it counts: it ends before the first null character. -/
def upToNull (text : List Char) : String :=
  String.ofList (text.takeWhile (· != '\x00'))

/-- Reads the text of a tag, and tells whether there is any. -/
def tagText? (full : Bool) (gs : List Glyph) : Option (String × Bool × List Glyph) :=
  let written := (gs.takeWhile (isTagGlyph full)).map Glyph.char
  (unescape? 0 written).map fun text =>
    (upToNull text, !written.isEmpty, gs.dropWhile (isTagGlyph full))

/-- Reads a handle after its exclamation mark: a word and perhaps one more mark. The flag tells
whether it has that mark. -/
def handleRest (gs : List Glyph) : String × Bool × List Glyph :=
  let word := textOf (gs.takeWhile Glyph.isWord)
  match gs.dropWhile Glyph.isWord with
  | g :: rest => if g.char == '!' then (word, true, rest) else (word, false, g :: rest)
  | [] => (word, false, [])

/-- Reads a full tag after its opening bracket. -/
def fullTag? (gs : List Glyph) : Option (Token × List Glyph) := do
  let (text, written, rest) ← tagText? true gs
  match rest with
  | g :: rest => if g.char == '>' && written then some (.tag "" text, rest) else none
  | [] => none

/-- Reads what follows the exclamation mark of a tag without brackets: a handle with a suffix, a
suffix, or nothing, which is the tag `!`. -/
def shortTag? (gs : List Glyph) : Option (Token × List Glyph) := do
  let (word, marked, rest) := handleRest gs
  let (suffix, written, rest) ← tagText? false rest
  if marked then
    if written then some (.tag ("!" ++ word ++ "!") suffix, rest) else none
  else if word ++ suffix = "" then some (.tag "" "!", rest)
  else some (.tag "!" (word ++ suffix), rest)

/-- Reads a tag after its exclamation mark. -/
def tag? (inFlow : Bool) (gs : List Glyph) : Option (Token × List Glyph) := do
  let (token, rest) ← match gs with
    | g :: rest => if g.char == '<' then fullTag? rest else shortTag? gs
    | [] => shortTag? []
  match rest with
  | g :: _ => if g.isSpace || (inFlow && g.char == ',') then some (token, rest) else none
  | [] => some (token, [])

/-! ## Directives -/

/-- Reads a number of at most nine digits. -/
def versionPart? (gs : List Glyph) : Option (Nat × List Glyph) :=
  let digits := gs.takeWhile (·.char.isDigit)
  if digits.isEmpty || 9 < digits.length then none
  else
    (Decimal.read? (digits.map Glyph.char)).map fun n => (n, gs.dropWhile (·.char.isDigit))

/-- Reads the value of the directive for the version. -/
def version? (gs : List Glyph) : Option (Token × List Glyph) := do
  let (major, rest) ← versionPart? gs
  match rest with
  | dot :: rest => do
    let (minor, rest) ← versionPart? rest
    if dot.char == '.' then some (.version major minor, rest) else none
  | [] => none

/-- Reads the value of the directive for a tag handle: the handle and what it stands for. -/
def tagHandle? (gs : List Glyph) : Option (Token × List Glyph) := do
  match gs with
  | g :: rest =>
    let (word, marked, rest) := handleRest rest
    if g.char != '!' || (!marked && word ≠ "") || !startsBlank rest then none
    else
      let (start, written, rest) ← tagText? true (rest.dropWhile Glyph.isBlank)
      let handle := if marked then "!" ++ word ++ "!" else "!"
      if !written || !startsBlank rest then none else some (.tagHandle handle start, rest)
  | [] => none

/-- Reads a directive after its percent sign. -/
def directive? (gs : List Glyph) : Option (Token × List Glyph) := do
  let name := textOf (gs.takeWhile Glyph.isWord)
  let rest := gs.dropWhile Glyph.isWord
  if !startsBlank rest then none
  else
    let value := rest.dropWhile Glyph.isBlank
    let (token, rest) ←
      if name = "YAML" then version? value
      else if name = "TAG" then tagHandle? value
      else none
    return (token, ← lineEnd? rest)

end Courier.Yaml
