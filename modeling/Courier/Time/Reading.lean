import Courier.Text.Bytes
import Courier.Time.Pattern

/-!
# How a date pattern is read

A pattern falls into pieces, one after the other from the front: a text in brackets where a bracket
opens and is closed further on, else the longest token that starts here, else a single character.
`ReadsAs` says so in as many words and without compiling anything.
-/

namespace Courier.Time

/-- A piece of a pattern. -/
inductive PatternPiece where
  /-- A text between brackets. -/
  | bracketed (text : List Char)
  | field (token : DateToken)
  /-- A character that is neither a token nor the start of one. -/
  | plain (c : Char)
deriving DecidableEq, Repr

namespace PatternPiece

/-- How a piece is written in a pattern. -/
def print : PatternPiece → List Char
  | .bracketed text => '[' :: text ++ [']']
  | .field token => token.spelling.toList
  | .plain c => [c]

/-- The text of a piece at an instant. -/
def render (t : Instant) : PatternPiece → List Char
  | .bracketed text => text
  | .field token => token.render t
  | .plain c => [c]

end PatternPiece

/-- A bracket opens in front and is closed further on. -/
def OpensBracket (cs : List Char) : Prop :=
  ∃ rest, cs = '[' :: rest ∧ ']' ∈ rest

/-- This token is the longest of those that the text starts with. -/
structure IsLongestToken (token : DateToken) (cs : List Char) : Prop where
  starts : token.spelling.toList <+: cs
  longest : ∀ other : DateToken, other.spelling.toList <+: cs →
    other.spelling.length ≤ token.spelling.length

/-- This piece is the one that a text starts with: brackets come first, then the longest token, and
only then a character for itself. -/
def PatternPiece.Fits (cs : List Char) : PatternPiece → Prop
  -- The text ends at the nearest closing bracket.
  | .bracketed text => ']' ∉ text
  | .field token => ¬ OpensBracket cs ∧ IsLongestToken token cs
  | .plain _ => ¬ OpensBracket cs ∧ ∀ token : DateToken, ¬ token.spelling.toList <+: cs

/-- A text is read as these pieces, one behind the other. -/
inductive ReadsAs : List Char → List PatternPiece → Prop where
  | done : ReadsAs [] []
  | next {piece : PatternPiece} {after : List Char} {pieces : List PatternPiece}
    (fits : piece.Fits (piece.print ++ after)) (later : ReadsAs after pieces) :
    ReadsAs (piece.print ++ after) (piece :: pieces)

/-- A pattern is read as these pieces and no others, they take up all of it, and it is written as
they are. -/
structure Pattern.IsReadAs (text : String) (pieces : List PatternPiece) : Prop where
  reads : ReadsAs text.toList pieces
  unique : ∀ other, ReadsAs text.toList other → other = pieces
  /-- Each character belongs to one piece. -/
  print_eq : pieces.flatMap PatternPiece.print = text.toList
  /-- No piece is empty, so there are no more of them than characters. -/
  print_ne_nil : ∀ piece ∈ pieces, piece.print ≠ []
  /-- Pieces end between characters. -/
  boundary : ∀ front, front <+: pieces →
    String.Pos.Raw.IsValid text ⟨Text.byteLength (front.flatMap PatternPiece.print)⟩
  format_eq : ∀ t, (Pattern.compile text).format t =
    String.ofList (pieces.flatMap (PatternPiece.render t))

end Courier.Time
