import Courier.Text.Decimal

/-!
# Why a field does not parse

Each error names the byte position it was found at. The wording of all of them is in
`ParseError.message`.
-/

namespace Courier.Template

/-- What is wrong with a brace that is neither literal nor opens a placeholder. -/
inductive Malformation where
  | emptyBody
  | braceInFormat
  | missingName
  | blankBeforeName
  | invalidName
  | unmatchedClosing
  | unmatchedOpening
deriving DecidableEq, Repr

/-- The wording of a malformation. -/
def Malformation.reason : Malformation → String
  | .emptyBody => "empty placeholder body"
  | .braceInFormat => "opening brace inside placeholder format"
  | .missingName => "missing placeholder name"
  | .blankBeforeName => "whitespace before placeholder name"
  | .invalidName => "invalid placeholder name"
  | .unmatchedClosing => "unmatched closing brace"
  | .unmatchedOpening => "unmatched opening brace"

/-- Why a field does not parse. -/
inductive ParseError where
  /-- The field ends inside the placeholder that starts here. -/
  | unterminated (offset : Nat)
  | malformed (offset : Nat) (what : Malformation)
  | unknownName (name : String) (offset : Nat)
deriving DecidableEq, Repr

/-- The byte position an error was found at. -/
def ParseError.offset : ParseError → Nat
  | .unterminated offset => offset
  | .malformed offset _ => offset
  | .unknownName _ offset => offset

/-- A byte position in decimal. -/
def offsetText (offset : Nat) : String :=
  String.ofList (Decimal.digits offset)

/-- The wording of an error. -/
def ParseError.message : ParseError → String
  | .unterminated offset => "Unterminated placeholder starting at offset " ++ offsetText offset
  | .malformed offset what =>
    "Malformed syntax at offset " ++ offsetText offset ++ ": " ++ what.reason
  | .unknownName name offset =>
    "Unknown placeholder '" ++ name ++ "' at offset " ++ offsetText offset

end Courier.Template
