/-!
# Instants

An instant is a number of whole seconds since 1970-01-01T00:00:00 UTC and a number of nanoseconds
into the second. Nanoseconds from 1 000 000 000 on stand for the leap second that follows second 59
of a minute. Instants lie in a fixed range, the proleptic Gregorian years -262143 to 262142.
-/

namespace Courier.Time

/-- The first second of the range, -262143-01-01T00:00:00. -/
def minSecs : Int := -8334601228800

/-- The last second of the range, 262142-12-31T23:59:59. -/
def maxSecs : Int := 8210266876799

/-- A second has this many nanoseconds. -/
def nanosPerSecond : Nat := 1000000000

/-- A point in time in the supported range. -/
structure Instant where
  secs : Int
  nanos : Nat
  minSecs_le : minSecs ≤ secs
  secs_le : secs ≤ maxSecs
  nanos_lt : nanos < 2 * nanosPerSecond
  leap_at_59 : nanosPerSecond ≤ nanos → secs % 60 = 59
deriving DecidableEq, Repr

namespace Instant

/-- The instant with these parts, if there is one. -/
def ofParts? (secs : Int) (nanos : Nat) : Option Instant :=
  if h : minSecs ≤ secs ∧ secs ≤ maxSecs ∧ nanos < 2 * nanosPerSecond ∧
      (nanosPerSecond ≤ nanos → secs % 60 = 59) then
    some ⟨secs, nanos, h.1, h.2.1, h.2.2.1, h.2.2.2⟩
  else
    none

/-- An instant inside a leap second. -/
def isLeap (t : Instant) : Bool :=
  nanosPerSecond ≤ t.nanos

/-- The milliseconds into the second, less than 1000 in a leap second too. -/
def milli (t : Instant) : Nat :=
  t.nanos % nanosPerSecond / 1000000

/-- Whole milliseconds since 1970, those of a leap second counted on from second 59. -/
def epochMillis (t : Instant) : Int :=
  t.secs * 1000 + (t.nanos / 1000000 : Nat)

/-- Nanoseconds since 1970, those of a leap second counted on from second 59. -/
def epochNanos (t : Instant) : Int :=
  t.secs * nanosPerSecond + t.nanos

/-- The instant a number of milliseconds after `nanos` nanoseconds into the second `secs`, with all
seconds of equal length. -/
def shifted? (secs : Int) (nanos : Nat) (millis : Int) : Option Instant :=
  let total : Int := nanos + millis * 1000000
  ofParts? (secs + total / nanosPerSecond) (total % nanosPerSecond).toNat

/-- The instant a number of milliseconds later, if it lies in the range.

A shift that starts in a leap second stays in that second's count when it is shorter than a second
and does not pass the end of the leap second. A shift that leaves it forwards starts at the same
fraction of second 59, and one of a second or more backwards at that fraction of the second
after. -/
def addMillis? (t : Instant) (millis : Int) : Option Instant :=
  if t.isLeap then
    let moved : Int := t.nanos + millis * 1000000
    if 1000 ≤ millis ∨ 2 * nanosPerSecond ≤ moved then
      shifted? t.secs (t.nanos - nanosPerSecond) millis
    else if millis ≤ -1000 then
      shifted? (t.secs + 1) (t.nanos - nanosPerSecond) millis
    else
      ofParts? t.secs moved.toNat
  else
    shifted? t.secs t.nanos millis

/-! ## Laws -/

theorem ofParts?_secs_nanos (t : Instant) : ofParts? t.secs t.nanos = some t :=
  dif_pos ⟨t.minSecs_le, t.secs_le, t.nanos_lt, t.leap_at_59⟩

theorem ofParts?_eq_some {secs : Int} {nanos : Nat} {t : Instant} :
    ofParts? secs nanos = some t ↔ t.secs = secs ∧ t.nanos = nanos := by
  constructor
  · intro h
    unfold ofParts? at h
    split at h
    · cases h; exact ⟨rfl, rfl⟩
    · cases h
  · rintro ⟨rfl, rfl⟩
    exact ofParts?_secs_nanos t

end Instant

end Courier.Time
