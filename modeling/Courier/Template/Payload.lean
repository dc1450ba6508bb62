import Courier.Json.Token
import Courier.Template.Grammar
import Courier.Template.Joined

/-!
# JSON payloads with placeholders

A payload is a JSON document with blanks between its tokens, where each object has a member at
least. Placeholders may stand inside its keys and strings and in place of its scalars; other than
those, no key, string or scalar holds a brace. Of the texts between quotes and of the words and
numbers nothing else counts here, so that payloads are more than what is well-formed JSON.
-/

namespace Courier.Template

/-! ## Parts -/

/-- A placeholder to be put into a text. -/
structure Hole where
  name : PlaceholderName
  format : Option String
  braceless : ∀ f, format = some f → Braceless f.toList

/-- A part of a payload: one of its characters, or a placeholder that was put there. -/
inductive Part where
  | char (c : Char)
  | hole (h : Hole)

/-- A text without placeholders. -/
def chars (cs : List Char) : List Part :=
  cs.map .char

/-- The written form of a part. -/
def Part.print : Part → List Char
  | .char c => [c]
  | .hole h => written h.name h.format

/-- The written form of parts in a row. -/
def printParts (parts : List Part) : List Char :=
  parts.flatMap Part.print

/-- A brace outside placeholders. -/
def Part.isBrace : Part → Bool
  | .char c => Template.isBrace c
  | .hole _ => false

/-- The segment of a part that stands at byte position `pos`. -/
def Part.segment (pos : Nat) : Part → Segment
  | .char c => .literal (String.singleton c)
  | .hole h => .placeholder (.at pos h.name h.format)

/-- The segments of parts, the first of them at byte position `pos`: one for each placeholder, and
the characters in between joined. -/
def segmentsAt (pos : Nat) : List Part → List Segment
  | [] => []
  | part :: rest =>
    joinSegments [part.segment pos] (segmentsAt (pos + Text.byteLength part.print) rest)

/-- The placeholders among parts, from left to right, the first part at byte position `pos`. -/
def placeholdersAt (pos : Nat) : List Part → List Placeholder
  | [] => []
  | .char c :: rest => placeholdersAt (pos + c.utf8Size) rest
  | .hole h :: rest =>
    let p := Placeholder.at pos h.name h.format
    p :: placeholdersAt p.stop rest

/-! ## Payloads -/

/-- Blanks between tokens. -/
structure Blanks where
  text : List Char
  isBlank : ∀ c ∈ text, Json.isBlank c = true

/-- No blanks. -/
def Blanks.none : Blanks :=
  ⟨[], List.forall_mem_nil _⟩

/-- A word or a number. -/
structure Scalar where
  text : List Char
  ne_nil : text ≠ []
  braceless : Braceless text

/-- What stands between the quotes of a key or a string. -/
structure Content where
  parts : List Part
  braceless : ∀ part ∈ parts, part.isBrace = false

/-- The content between its quotes. -/
def Content.quoted (s : Content) : List Part :=
  .char '"' :: s.parts ++ [.char '"']

/-- What nests: arrays of elements and objects of members. -/
inductive Nesting where
  | array
  | object

/-- What part of a payload a text is. -/
inductive Role where
  | value
  /-- An element or a member. -/
  | entry (n : Nesting)
  /-- One entry or more, with a comma between each two. -/
  | entries (n : Nesting)

/-- Payloads and parts of them. -/
inductive Payload : Role → Type where
  | scalar (s : Scalar) : Payload .value
  | hole (h : Hole) : Payload .value
  | string (s : Content) : Payload .value
  | emptyArray (blanks : Blanks) : Payload .value
  | array (elements : Payload (.entries .array)) : Payload .value
  | object (members : Payload (.entries .object)) : Payload .value
  | element (before : Blanks) (v : Payload .value) (after : Blanks) : Payload (.entry .array)
  | member (before : Blanks) (key : Content) (afterKey beforeValue : Blanks) (v : Payload .value)
    (after : Blanks) : Payload (.entry .object)
  | last {n : Nesting} (e : Payload (.entry n)) : Payload (.entries n)
  | more {n : Nesting} (e : Payload (.entry n)) (rest : Payload (.entries n)) :
    Payload (.entries n)

/-- The parts of a payload. -/
def Payload.parts {role : Role} : Payload role → List Part
  | .scalar s => chars s.text
  | .hole h => [.hole h]
  | .string s => s.quoted
  | .emptyArray blanks => .char '[' :: chars blanks.text ++ [.char ']']
  | .array elements => .char '[' :: elements.parts ++ [.char ']']
  | .object members => .char '{' :: members.parts ++ [.char '}']
  | .element before v after => chars before.text ++ v.parts ++ chars after.text
  | .member before key afterKey beforeValue v after =>
    chars before.text ++ key.quoted ++ chars afterKey.text ++ [.char ':'] ++
      chars beforeValue.text ++ v.parts ++ chars after.text
  | .last e => e.parts
  | .more e rest => e.parts ++ .char ',' :: rest.parts

/-- A payload with blanks around it. -/
structure Document where
  before : Blanks
  value : Payload .value
  after : Blanks

namespace Document

/-- The parts of a document. -/
def parts (d : Document) : List Part :=
  chars d.before.text ++ d.value.parts ++ chars d.after.text

/-- The text of a document. -/
def text (d : Document) : String :=
  String.ofList (printParts d.parts)

end Document

end Courier.Template
