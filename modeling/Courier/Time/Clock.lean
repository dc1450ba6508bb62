import Courier.Time.Span

/-!
# Clocks

A clock is a series of readings together with the number of readings taken. A reading that falls
outside the range of instants yields nothing and counts all the same.
-/

namespace Courier.Time

/-- A series of readings and how many were taken. -/
structure Clock where
  /-- The reading with this number, counted from zero. -/
  reading : Nat → Option Instant
  /-- How many readings were taken. -/
  reads : Nat := 0

namespace Clock

/-- Takes the next reading. -/
def read (c : Clock) : Option Instant × Clock :=
  (c.reading c.reads, { c with reads := c.reads + 1 })

/-- The clock after this many more readings. -/
def skip (c : Clock) (n : Nat) : Clock :=
  { c with reads := c.reads + n }

/-- The next readings, this many of them, are in the range of instants. -/
def InRange (c : Clock) (n : Nat) : Prop :=
  ∀ k < n, ∃ t, c.reading (c.reads + k) = some t

/-- A clock that goes on by a fixed number of milliseconds from reading to reading. A machine word
counts the readings, and how far the clock has gone is a product of machine words. -/
def stepping (start : Instant) (stepMillis : Int) : Clock :=
  { reading := fun n => do
      let span ← Span.ofMillis? (cappedProduct (.ofNat n) (.ofInt stepMillis))
      start.addMillis? span.millis }

/-- A clock that stands still. -/
def fixed (t : Instant) : Clock :=
  { reading := fun _ => some t }

/-! ## Laws -/

@[simp] theorem read_fst (c : Clock) : c.read.1 = c.reading c.reads := rfl

@[simp] theorem reading_read (c : Clock) : c.read.2.reading = c.reading := rfl

@[simp] theorem reads_read (c : Clock) : c.read.2.reads = c.reads + 1 := rfl

theorem skip_skip (c : Clock) (m n : Nat) : (c.skip m).skip n = c.skip (m + n) :=
  congrArg (Clock.mk c.reading) (Nat.add_assoc c.reads m n)

/-- Fewer readings are in range too. -/
theorem InRange.mono {c : Clock} {m n : Nat} (h : c.InRange n) (hle : m ≤ n) : c.InRange m :=
  fun k hk => h k (Nat.lt_of_lt_of_le hk hle)

end Clock

end Courier.Time
