import Courier.Template.Field

/-!
# The grammar of fields

Which rows of lexemes a text stands for, said without reading it from left to right. A row belongs
to a text when it prints to the text, when each lexeme fits the place it stands at and the text
that follows it, and when the literal braces are balanced.
-/

namespace Courier.Template

/-- A letter or an underscore, and then letters, digits and underscores. -/
def IsIdentifier (name : List Char) : Prop :=
  ∃ c rest, name = c :: rest ∧ isNameStart c = true ∧ ∀ d ∈ rest, isNameRest d = true

/-- `name` is the longest identifier at the front of the text `name ++ tail`. -/
structure IsLongestIdentifier (name tail : List Char) : Prop where
  isIdentifier : IsIdentifier name
  ends : ∀ c ∈ tail.head?, isNameRest c = false

/-- A text without braces. -/
def Braceless (cs : List Char) : Prop :=
  ∀ c ∈ cs, isBrace c = false

/-- No placeholder can begin with an opening brace in front of `rest`. -/
structure OpensNoName (rest : List Char) : Prop where
  /-- Something other than a closing brace comes next. -/
  follows : ∃ c tail, rest = c :: tail ∧ c ≠ '}'
  /-- The longest identifier after the brace, if there is one, ends neither at a closing brace, nor
  at a colon, nor with the text. -/
  noName : ∀ name tail, rest = name ++ tail → IsLongestIdentifier name tail →
    ∃ c after, tail = c :: after ∧ c ≠ '}' ∧ c ≠ ':'

/-- An opening brace in front of `rest` is literal. -/
structure OpensLiteral (rest : List Char) : Prop extends OpensNoName rest where
  /-- A closing brace follows, and there is a sign of JSON before the first one. -/
  structural : ∃ body after, rest = body ++ '}' :: after ∧ '}' ∉ body ∧
    ∃ c ∈ body, isStructural c = true

namespace Lexeme

/-- The placeholder of a lexeme that is one. -/
def placeholder? : Lexeme → Option Placeholder
  | .placeholder p => some p
  | _ => none

/-- A lexeme can stand at byte position `pos` in front of `rest`. -/
def Fits (pos : Nat) (rest : List Char) : Lexeme → Prop
  | .plain c => isBrace c = false
  | .opening => OpensLiteral rest
  | .closing => True
  | .placeholder p =>
    p = Placeholder.at pos p.name p.format ∧ ∀ f, p.format = some f → Braceless f.toList

end Lexeme

/-- The literal braces of a row pair up. -/
structure Balanced (ls : List Lexeme) : Prop where
  /-- No front part of the row closes more braces than it opens. -/
  sane : ∀ front, front <+: ls → front.count .closing ≤ front.count .opening
  /-- The whole row closes as many braces as it opens. -/
  settled : ls.count .closing = ls.count .opening

/-- A text divides into this row of lexemes. -/
structure Divides (cs : List Char) (ls : List Lexeme) : Prop where
  print_eq : printLexemes ls = cs
  fits : ∀ before l after, ls = before ++ l :: after →
    l.Fits (Text.byteLength (printLexemes before)) (printLexemes after)
  balanced : Balanced ls

end Courier.Template
