/-!
# Characters with their positions

A YAML text is read as a row of characters that know their line and column. The several spellings of
a line break become one character each: a line feed, unless the break is a line or paragraph
separator, which stays what it is.
-/

namespace Courier.Yaml

/-- A character of a text, or a line break, with its position. -/
structure Glyph where
  char : Char
  /-- The character ends its line. -/
  isBreak : Bool
  /-- The number of bytes before it. -/
  index : Nat
  /-- The number of lines before its own. -/
  line : Nat
  /-- The number of characters before it in its line. -/
  column : Nat
deriving Repr

/-- A character that a YAML text may hold. -/
def isAllowed (c : Char) : Bool :=
  let n := c.toNat
  n == 0x09 || n == 0x0A || n == 0x0D || (0x20 ≤ n && n ≤ 0x7E) || n == 0x85 ||
    (0xA0 ≤ n && n ≤ 0xD7FF) || (0xE000 ≤ n && n ≤ 0xFFFD) || 0x10000 ≤ n

/-- The positions of a text from this one on. -/
def glyphsFrom (index line column : Nat) : List Char → List Glyph
  | '\r' :: '\n' :: rest =>
    ⟨'\n', true, index, line, column⟩ :: glyphsFrom (index + 2) (line + 1) 0 rest
  | c :: rest =>
    let next := index + c.utf8Size
    if c == '\n' || c == '\r' || c == '\x85' then
      ⟨'\n', true, index, line, column⟩ :: glyphsFrom next (line + 1) 0 rest
    else if c == '\u2028' || c == '\u2029' then
      ⟨c, true, index, line, column⟩ :: glyphsFrom next (line + 1) 0 rest
    else ⟨c, false, index, line, column⟩ :: glyphsFrom next line (column + 1) rest
  | [] => []

/-- The characters of a text; nothing if one of them is not allowed. -/
def glyphs? (cs : List Char) : Option (List Glyph) :=
  if cs.all isAllowed then some (glyphsFrom 0 0 0 cs) else none

namespace Glyph

/-- Space or tab. -/
def isBlank (g : Glyph) : Bool :=
  g.char == ' ' || g.char == '\t'

/-- Space, tab or line break. -/
def isSpace (g : Glyph) : Bool :=
  g.isBlank || g.isBreak

/-- An ASCII letter or digit, a minus sign or an underscore. -/
def isWord (g : Glyph) : Bool :=
  g.char.isAlphanum || g.char == '-' || g.char == '_'

end Glyph

/-- A blank, a line break or the end of the text comes first. -/
def startsBlank (gs : List Glyph) : Bool :=
  match gs with
  | g :: _ => g.isSpace
  | [] => true

/-- A line break or the end of the text comes first. -/
def startsBreak (gs : List Glyph) : Bool :=
  match gs with
  | g :: _ => g.isBreak
  | [] => true

/-- The text after the end of a line: blanks, a comment and a line break or the end of the text. -/
def lineEnd? (gs : List Glyph) : Option (List Glyph) :=
  let gs := gs.dropWhile Glyph.isBlank
  let gs := match gs with
    | g :: _ => if g.char == '#' then gs.dropWhile (!·.isBreak) else gs
    | [] => []
  if startsBreak gs then some (gs.drop 1) else none

/-- The characters without their positions. -/
def textOf (gs : List Glyph) : String :=
  String.ofList (gs.map Glyph.char)

/-- Three of one character and then a blank, at the start of a line. -/
def startsMarker (c : Char) : List Glyph → Bool
  | x :: y :: z :: rest =>
    x.column == 0 && x.char == c && y.char == c && z.char == c && startsBlank rest
  | _ => false

/-- The line begins with the marker of the start or the end of a document. -/
def startsDocumentMarker (gs : List Glyph) : Bool :=
  startsMarker '-' gs || startsMarker '.' gs

end Courier.Yaml
