import Courier.Time.Instant

/-!
# Spans of time

A span is a number of milliseconds that is a machine word, and not the least of them, so that every
span has an opposite. Products of machine words are cut off where words end.
-/

namespace Courier.Time

/-- The longest span in milliseconds. -/
def maxSpanMillis : Int := 9223372036854775807

/-- A span of time in whole milliseconds. -/
structure Span where
  millis : Int
  neg_le : -maxSpanMillis ≤ millis
  le_max : millis ≤ maxSpanMillis
deriving DecidableEq, Repr

/-- The span of this many milliseconds, if there is one. -/
def Span.ofMillis? (millis : Int64) : Option Span :=
  if h : -maxSpanMillis ≤ millis.toInt ∧ millis.toInt ≤ maxSpanMillis then
    some ⟨millis.toInt, h.1, h.2⟩
  else
    none

/-- The product of two machine words, or the word next to it when it is none. -/
def cappedProduct (a b : Int64) : Int64 :=
  .ofIntClamp (a.toInt * b.toInt)

end Courier.Time
