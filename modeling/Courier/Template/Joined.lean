import Courier.Template.Field

/-!
# Fields one after the other

What becomes of a field and of what is found in it when another text is put in front: positions move
by the bytes of that text, and two literal texts that come to stand next to each other become one.
-/

namespace Courier.Template

/-- The placeholder this many bytes further on. -/
def Placeholder.shift (n : Nat) (p : Placeholder) : Placeholder :=
  { p with start := n + p.start, stop := n + p.stop }

/-- The segment this many bytes further on. -/
def Segment.shift (n : Nat) : Segment → Segment
  | .literal text => .literal text
  | .placeholder p => .placeholder (p.shift n)

/-- The error this many bytes further on. -/
def ParseError.shift (n : Nat) : ParseError → ParseError
  | .unterminated offset => .unterminated (n + offset)
  | .malformed offset what => .malformed (n + offset) what
  | .unknownName name offset => .unknownName name (n + offset)

/-- Segments in front of others. A literal at the end of the first and one at the start of the
second become one. -/
def joinSegments : List Segment → List Segment → List Segment
  | [], back => back
  | [.literal s], .literal t :: back => .literal (s ++ t) :: back
  | s :: front, back => s :: joinSegments front back

/-- The field of one text and then another. -/
def Field.append (f g : Field) : Field where
  source := f.source ++ g.source
  segments := joinSegments f.segments (g.segments.map (Segment.shift f.source.utf8ByteSize))

end Courier.Template
