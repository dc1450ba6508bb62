import Courier.Template.Lexeme

/-!
# Parsed fields

A parsed field keeps its source and splits it into segments: each placeholder is one, and so is
each longest run of lexemes between placeholders.
-/

namespace Courier.Template

/-- One lexeme put in front of a literal text and the segments after it. -/
def prepend (l : Lexeme) (acc : List Char × List Segment) : List Char × List Segment :=
  match l with
  | .placeholder p => ([], .placeholder p :: close acc)
  | l => (l.print ++ acc.1, acc.2)
where
  /-- The segments, with the text before them as a literal unless it is empty. -/
  close (acc : List Char × List Segment) : List Segment :=
    if acc.1.isEmpty then acc.2 else .literal (String.ofList acc.1) :: acc.2

/-- Joins lexemes between placeholders into literal segments. -/
def segmentsOf (ls : List Lexeme) : List Segment :=
  prepend.close (ls.foldr prepend ([], []))

/-- A field of a template, split into literal text and placeholders. -/
structure Field where
  source : String
  segments : List Segment
deriving DecidableEq, Repr

namespace Field

/-- Splits the text of a field. -/
def parse (text : String) : Except ParseError Field :=
  (lex text.toList).map fun ls => ⟨text, segmentsOf ls⟩

/-- The placeholders from left to right. -/
def placeholders (f : Field) : List Placeholder :=
  f.segments.filterMap Segment.placeholder?

/-- How many placeholders there are. -/
def placeholderCount (f : Field) : Nat :=
  f.placeholders.length

/-- A field without placeholders. -/
def isLiteral (f : Field) : Bool :=
  f.placeholderCount == 0

/-- The source of the placeholder at a segment index; nothing for a literal or past the end. -/
def sourceText? (f : Field) (index : Nat) : Option String :=
  match f.segments[index]? with
  | some (.placeholder p) => some (String.ofList (Text.between p.start p.stop f.source.toList))
  | _ => none

end Field

end Courier.Template
