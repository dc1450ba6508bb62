import Courier.Template.Placeholder
import Courier.Time.Pattern
import Courier.Uuid

/-!
# Format directives

The format of a placeholder says how its value is written. Without a format each kind of value has
a standard form; a width followed by `d` pads a count with zeros; any other format is a date pattern
for a timestamp. `Directive.classify` decides which of these a format is, and refuses a format that
its placeholder cannot take.
-/

namespace Courier.Template

/-- What is wrong with a format that suits its placeholder in kind. -/
inductive FormatFault where
  | empty
  | paddingTooWide
deriving DecidableEq, Repr

/-- The wording of a fault. -/
def FormatFault.reason : FormatFault → String
  | .empty => "format is empty"
  | .paddingTooWide => "padding width too large"

/-- Why a format is refused. -/
inductive FormatError where
  /-- The format is meant for another kind of value. -/
  | incompatible (name : PlaceholderName) (format : String)
  | invalid (name : PlaceholderName) (format : String) (fault : FormatFault)
deriving DecidableEq, Repr

/-- A name between braces. -/
def PlaceholderName.braced (name : PlaceholderName) : String :=
  "\x7b" ++ name.text ++ "\x7d"

/-- The wording of a refusal. -/
def FormatError.message : FormatError → String
  | .incompatible name format =>
    "Format '" ++ format ++ "' cannot be applied to " ++ name.braced
  | .invalid name format fault =>
    "Invalid format specification '" ++ format ++ "' for " ++ name.braced ++ ": " ++ fault.reason

/-- The value of one occurrence of a placeholder. -/
inductive Value where
  | uuid (id : Uuid)
  | count (n : Nat)
  | timestamp (t : Time.Instant)
deriving DecidableEq, Repr

/-- The standard form of a value: a hyphenated identifier, a plain decimal, an instant to the
second. -/
def Value.standardText : Value → String
  | .uuid id => String.ofList id.hyphenated
  | .count n => String.ofList (Decimal.digits n)
  | .timestamp t => t.standardText

/-- How a value is written. -/
inductive Directive where
  | standard
  | zeroPad (width : Nat)
  | date (pattern : Time.Pattern)
deriving DecidableEq, Repr

namespace Directive

/-- The widest padding a count can have. -/
def maxWidth : Nat := 64

/-- The digits before a final `d`, if a format has this form. -/
def widthDigits? (format : List Char) : Option (List Char) :=
  if format.getLast? = some 'd' ∧ format.dropLast.all Decimal.isDigit then some format.dropLast
  else none

/-- The width that such digits ask for, unless it is too large; no digits ask for no padding. -/
def width? (digits : List Char) : Option Nat :=
  if digits = [] then some 0 else (Decimal.readWord? digits).filter (· ≤ maxWidth)

/-- Decides what a format means for a placeholder. -/
def classify (name : PlaceholderName) (format : Option String) : Except FormatError Directive :=
  match format with
  | none => .ok .standard
  | some f =>
    if f = "" then .error (.invalid name f .empty)
    else
      match widthDigits? f.toList, name with
      | some digits, .count =>
        match width? digits with
        | some width => .ok (.zeroPad width)
        | none => .error (.invalid name f .paddingTooWide)
      | none, .timestamp => .ok (.date (Time.Pattern.compile f))
      | _, _ => .error (.incompatible name f)

/-- Writes a value; one of a kind that the directive is not meant for has its standard form. -/
def apply : Directive → Value → String
  | .zeroPad width, .count n => String.ofList (Decimal.padded width n)
  | .date pattern, .timestamp t => pattern.format t
  | _, value => value.standardText

/-- Writes a value as a placeholder of this name and format asks for. -/
def render (name : PlaceholderName) (format : Option String) (value : Value) :
    Except FormatError String :=
  (classify name format).map (apply · value)

/-! ## Laws -/

/-- A width is found just when the digits denote one that is not too large, with as many zeros in
front as one likes. -/
theorem width?_eq_some_iff {digits : List Char} {width : Nat} :
    width? digits = some width ↔ Decimal.ofDigits digits = width ∧ width ≤ maxWidth := by
  unfold width?
  by_cases hnil : digits = []
  · rw [if_pos hnil, hnil]
    constructor
    · rintro ⟨⟩
      exact ⟨rfl, Nat.zero_le _⟩
    · rintro ⟨rfl, -⟩
      rfl
  · rw [if_neg hnil, Option.filter_eq_some_iff, Decimal.readWord?_eq_some_iff, decide_eq_true_eq]
    have hword : maxWidth < UInt64.size := by decide
    omega

end Directive

end Courier.Template
