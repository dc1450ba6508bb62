import Courier.Template.Fault

/-!
# What a message says where

The text that each segment of a template comes to in a message, given the context of the message and
the identifiers drawn for it: literal text stays what it is, and a placeholder is written as its
format asks. `Spells` says so of segments in a row, each `{uuid}` among them with the next
identifier of its own, and `SpellsOut` of the texts of a message, each joined from the texts of its
segments.
-/

namespace Courier.Template

/-- The value of a placeholder in a message when `id` is the next identifier. -/
def Context.value (c : Context) (id : Uuid) : PlaceholderName → Value
  | .uuid => .uuid id
  | .count => .count c.index
  | .timestamp => .timestamp c.instant

/-- How many identifiers a placeholder uses up. -/
def PlaceholderName.draws : PlaceholderName → Nat
  | .uuid => 1
  | .count => 0
  | .timestamp => 0

namespace Segment

/-- The text of a segment in a message when `id` is the next identifier. -/
def text (c : Context) (id : Uuid) : Segment → Except FormatError String
  | .literal text => .ok text
  | .placeholder p => Directive.render p.name p.format (c.value id p.name)

/-- How many identifiers a segment uses up. -/
def draws : Segment → Nat
  | .literal _ => 0
  | .placeholder p => p.name.draws

end Segment

/-- How many identifiers segments use up. -/
def drawsOf : List Segment → Nat
  | [] => 0
  | s :: rest => s.draws + drawsOf rest

/-- Segments come to these texts, one each, when the identifiers go on with number `n` of the
series. -/
inductive Spells (c : Context) (series : Nat → Uuid) : Nat → List Segment → List String → Prop where
  | nil (n : Nat) : Spells c series n [] []
  | cons {n : Nat} {s : Segment} {text : String} {rest : List Segment} {texts : List String}
    (first : s.text c (series n) = .ok text)
    (later : Spells c series (n + s.draws) rest texts) :
    Spells c series n (s :: rest) (text :: texts)

/-- Fields come to these texts. The text of each is joined from a row of texts, one for each of its
segments. -/
inductive SpellsOut (c : Context) (series : Nat → Uuid) :
    Nat → List CompiledField → List (Location × String) → List (List String) → Prop where
  | nil (n : Nat) : SpellsOut c series n [] [] []
  | cons {n : Nat} {f : CompiledField} {row : List String} {rest : List CompiledField}
    {texts : List (Location × String)} {rows : List (List String)}
    (first : Spells c series n f.field.segments row)
    (later : SpellsOut c series (n + drawsOf f.field.segments) rest texts rows) :
    SpellsOut c series n (f :: rest) ((f.location, String.join row) :: texts) (row :: rows)

namespace CompiledTemplate

/-- The segments of all texts, in the order of the template. -/
def segments (t : CompiledTemplate) : List Segment :=
  t.fields.flatMap (·.field.segments)

/-- How many identifiers each message uses up. -/
def draws (t : CompiledTemplate) : Nat :=
  drawsOf t.segments

/-- There is a `{uuid}` at segment number `k`, counted over all texts. -/
def DrawsAt (t : CompiledTemplate) (k : Nat) : Prop :=
  ∃ p, t.segments[k]? = some (.placeholder p) ∧ p.name = .uuid

/-- A message of the template in this context, made when the identifiers go on with number `n` of
the series. The rows hold the texts of its segments, text by text. -/
def Spelt (t : CompiledTemplate) (c : Context) (series : Nat → Uuid) (n : Nat) (m : Message)
    (rows : List (List String)) : Prop :=
  SpellsOut c series n t.fields m.toTemplate.texts rows

end CompiledTemplate

end Courier.Template
