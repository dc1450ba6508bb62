import Courier.Template.Directive

/-!
# What a format means

A format is a width if it is a row of digits, possibly none, and then a `d`. What it comes to hangs
on its placeholder: a width is for counts and must not be too large, the empty format is for
nothing, and every other format is a date pattern for timestamps.
-/

namespace Courier.Template

/-- These digits are all of a format but for a final `d`. -/
def IsWidth (digits : List Char) (format : String) : Prop :=
  format.toList = digits ++ ['d'] ∧ ∀ c ∈ digits, Decimal.isDigit c = true

/-- What the format of a placeholder comes to: a directive, or the reason why it is refused. -/
inductive Judged (name : PlaceholderName) : Option String → Except FormatError Directive → Prop where
  | noFormat : Judged name none (.ok .standard)
  | empty : Judged name (some "") (.error (.invalid name "" .empty))
  | width {digits : List Char} {f : String} (width : IsWidth digits f) (counts : name = .count)
    (fits : Decimal.ofDigits digits ≤ 64) :
    Judged name (some f) (.ok (.zeroPad (Decimal.ofDigits digits)))
  | tooWide {digits : List Char} {f : String} (width : IsWidth digits f) (counts : name = .count)
    (exceeds : 64 < Decimal.ofDigits digits) :
    Judged name (some f) (.error (.invalid name f .paddingTooWide))
  | widthElsewhere {digits : List Char} {f : String} (width : IsWidth digits f)
    (other : name ≠ .count) : Judged name (some f) (.error (.incompatible name f))
  | date {f : String} (nonempty : f ≠ "") (noWidth : ∀ digits, ¬IsWidth digits f)
    (dates : name = .timestamp) : Judged name (some f) (.ok (.date (.compile f)))
  | dateElsewhere {f : String} (nonempty : f ≠ "") (noWidth : ∀ digits, ¬IsWidth digits f)
    (other : name ≠ .timestamp) : Judged name (some f) (.error (.incompatible name f))

end Courier.Template
