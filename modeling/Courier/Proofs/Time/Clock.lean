import Courier.Time.Clock
import Mathlib.Algebra.Group.Nat.Defs

/-!
# A stepping clock is exact

A clock that goes on step by step works with machine words, whose products are cut off. The range of
instants is so much narrower than that of the words that no cut is ever seen: each reading is what
exact arithmetic asks for, or there is none because no instant of the range is that. So the clock
never turns back, and once it has left the range it does not come back.
-/

namespace Courier.Time

/-- A reading is the instant this many nanoseconds after 1970, with all seconds of equal length; it
is none when that is before the range of instants or behind it. -/
def IsExact (nanos : Int) : Option Instant → Prop
  | some t => t.isLeap = false ∧ t.epochNanos = nanos
  | none => nanos < minSecs * nanosPerSecond ∨ (maxSecs + 1) * nanosPerSecond ≤ nanos

/-- Where a clock that steps from `start` is at a reading, in nanoseconds after 1970. -/
def steppedNanos (start : Instant) (step : Span) (read : Nat) : Int :=
  start.epochNanos + read * step.millis * 1000000

/-! ## Shifted instants -/

namespace Instant

theorem nanos_lt_of_isLeap_eq_false {t : Instant} (h : t.isLeap = false) :
    t.nanos < nanosPerSecond := by
  rw [isLeap, decide_eq_false_iff_not] at h
  omega

/-- An instant is within the range, to the nanosecond. -/
theorem epochNanos_bounds {t : Instant} (h : t.isLeap = false) :
    minSecs * nanosPerSecond ≤ t.epochNanos ∧ t.epochNanos < (maxSecs + 1) * nanosPerSecond := by
  have hnanos := nanos_lt_of_isLeap_eq_false h
  have hlow := t.minSecs_le
  have hhigh := t.secs_le
  simp only [epochNanos, nanosPerSecond] at hnanos ⊢
  omega

/-- In the range every fraction of a second is an instant. -/
theorem exists_ofParts? {secs : Int} {nanos : Nat} (low : minSecs ≤ secs) (high : secs ≤ maxSecs)
    (fraction : nanos < nanosPerSecond) : ∃ t, ofParts? secs nanos = some t :=
  ⟨_, dif_pos ⟨low, high, by omega, by omega⟩⟩

theorem isExact_shifted? (secs : Int) (nanos : Nat) (millis : Int) :
    IsExact (secs * nanosPerSecond + nanos + millis * 1000000) (shifted? secs nanos millis) := by
  cases h : shifted? secs nanos millis with
  | some t =>
    obtain ⟨hsecs, hnanos⟩ := ofParts?_eq_some.mp h
    simp only [nanosPerSecond] at hsecs hnanos
    constructor
    · rw [isLeap, decide_eq_false_iff_not]
      simp only [nanosPerSecond]
      omega
    · simp only [epochNanos, nanosPerSecond]
      omega
  | none =>
    -- What is left of a second always fits, so that the seconds are to blame.
    have hsecs : ¬(minSecs ≤ secs + (nanos + millis * 1000000) / nanosPerSecond ∧
        secs + (nanos + millis * 1000000) / nanosPerSecond ≤ maxSecs) := by
      rintro ⟨hlow, hhigh⟩
      have hnanos : ((nanos + millis * 1000000) % nanosPerSecond).toNat < nanosPerSecond := by
        simp only [nanosPerSecond]
        omega
      obtain ⟨t, ht⟩ := exists_ofParts? hlow hhigh hnanos
      rw [shifted?, ht] at h
      cases h
    simp only [IsExact, nanosPerSecond] at hsecs ⊢
    omega

/-- Milliseconds are added exactly, or the sum is out of range. -/
theorem isExact_addMillis? {t : Instant} (h : t.isLeap = false) (millis : Int) :
    IsExact (t.epochNanos + millis * 1000000) (t.addMillis? millis) := by
  rw [addMillis?, h]
  exact isExact_shifted? t.secs t.nanos millis

/-- The longest spans lead out of the range. -/
theorem addMillis?_of_far {t : Instant} (h : t.isLeap = false) {millis : Int}
    (far : millis ≤ -maxSpanMillis ∨ maxSpanMillis ≤ millis) : t.addMillis? millis = none := by
  have hexact := isExact_addMillis? h millis
  obtain ⟨hlow, hhigh⟩ := epochNanos_bounds h
  cases hadd : t.addMillis? millis with
  | none => rfl
  | some t' =>
    rw [hadd] at hexact
    obtain ⟨hlow', hhigh'⟩ := epochNanos_bounds hexact.1
    have hnanos := hexact.2
    simp only [maxSpanMillis] at far
    simp only [minSecs, maxSecs, nanosPerSecond] at hlow hhigh hlow' hhigh'
    omega

end Instant

/-! ## Products that are cut off -/

theorem toInt_ofIntClamp (n : Int) :
    (Int64.ofIntClamp n).toInt = max (-maxSpanMillis - 1) (min maxSpanMillis n) := by
  have hmin : Int64.minValue.toInt = -9223372036854775808 := rfl
  have hmax : Int64.maxValue.toInt = 9223372036854775807 := rfl
  simp only [maxSpanMillis]
  by_cases hlow : Int64.minValue.toInt ≤ n
  · by_cases hhigh : n ≤ Int64.maxValue.toInt
    · rw [Int64.toInt_ofIntClamp hlow hhigh]
      omega
    · rw [Int64.ofIntClamp, dif_pos hlow, dif_neg hhigh]
      omega
  · rw [Int64.ofIntClamp, dif_neg hlow]
    omega

namespace Span

/-- A span of a machine word is that word, the least word aside. -/
theorem ofMillis?_eq (millis : Int64) :
    (ofMillis? millis).map Span.millis =
      if millis.toInt = -maxSpanMillis - 1 then none else some millis.toInt := by
  have hlow := millis.le_toInt
  have hhigh := millis.toInt_lt
  unfold ofMillis?
  split
  · rename_i hspan
    rw [if_neg (by omega)]
    rfl
  · rename_i hspan
    have hleast : millis.toInt = -maxSpanMillis - 1 := by
      simp only [maxSpanMillis] at hspan ⊢
      omega
    rw [if_pos hleast]
    rfl

theorem toInt_ofInt_millis (step : Span) : (Int64.ofInt step.millis).toInt = step.millis := by
  have hlow := step.neg_le
  have hhigh := step.le_max
  simp only [maxSpanMillis] at hlow hhigh
  exact Int64.toInt_ofInt_of_le (by omega) (by omega)

end Span

/-! ## Stepping clocks -/

namespace Clock

variable {start : Instant} {step : Span} {read : Nat}

/-- No cut is seen in a reading: where the product is cut off, the exact one leads out of the range,
and so does what is left of it. -/
theorem reading_stepping (noLeap : start.isLeap = false) (hread : read < 2 ^ 63) :
    (stepping start step.millis).reading read = start.addMillis? (read * step.millis) := by
  have hcount : (Int64.ofNat read).toInt = read := Int64.toInt_ofNat_of_lt hread
  have hproduct : (cappedProduct (.ofNat read) (.ofInt step.millis)).toInt =
      max (-maxSpanMillis - 1) (min maxSpanMillis (read * step.millis)) := by
    rw [cappedProduct, hcount, step.toInt_ofInt_millis, toInt_ofIntClamp]
  have hspan := Span.ofMillis?_eq (cappedProduct (.ofNat read) (.ofInt step.millis))
  have hreading : (stepping start step.millis).reading read =
      ((Span.ofMillis? (cappedProduct (.ofNat read) (.ofInt step.millis))).map Span.millis).bind
        start.addMillis? := by
    rw [Option.bind_map]
    rfl
  rw [hreading, hspan, hproduct]
  generalize (read : Int) * step.millis = millis
  by_cases hfar : millis ≤ -maxSpanMillis - 1 ∨ maxSpanMillis ≤ millis
  · rw [Instant.addMillis?_of_far noLeap (by omega)]
    split
    · rfl
    · exact Instant.addMillis?_of_far noLeap (by omega)
  · have hwithin : max (-maxSpanMillis - 1) (min maxSpanMillis millis) = millis := by omega
    rw [hwithin, if_neg (by omega), Option.bind_some]

/-- A reading is the exact instant, or none when there is no such instant. -/
theorem isExact_stepping (noLeap : start.isLeap = false) (step : Span) (hread : read < 2 ^ 63) :
    IsExact (steppedNanos start step read) ((stepping start step.millis).reading read) := by
  rw [reading_stepping noLeap hread]
  exact Instant.isExact_addMillis? noLeap _

end Clock

/-- Where a clock is goes up with the number of the reading, or down when the steps lead back. -/
theorem steppedNanos_mono (start : Instant) (step : Span) {read read' : Nat} (h : read ≤ read') :
    (0 ≤ step.millis → steppedNanos start step read ≤ steppedNanos start step read') ∧
      (step.millis ≤ 0 → steppedNanos start step read' ≤ steppedNanos start step read) := by
  have hcast : (read : Int) ≤ read' := Int.ofNat_le.mpr h
  constructor
  · intro forth
    have hproduct := Int.mul_le_mul_of_nonneg_right hcast forth
    simp only [steppedNanos]
    omega
  · intro back
    have hproduct := Int.mul_le_mul_of_nonpos_right hcast back
    simp only [steppedNanos]
    omega

/-- A clock that starts in the range and has left it does not come back. -/
theorem IsExact.none_of_none {start : Instant} {step : Span} {read read' : Nat}
    {reading : Option Instant} (noLeap : start.isLeap = false) (h : read ≤ read')
    (left : IsExact (steppedNanos start step read) none)
    (later : IsExact (steppedNanos start step read') reading) : reading = none := by
  cases reading with
  | none => rfl
  | some t =>
    obtain ⟨hnoLeap, hnanos⟩ := later
    obtain ⟨hlow, hhigh⟩ := Instant.epochNanos_bounds noLeap
    obtain ⟨hlow', hhigh'⟩ := Instant.epochNanos_bounds hnoLeap
    have hstart : steppedNanos start step 0 = start.epochNanos := by
      simp [steppedNanos]
    obtain ⟨forth, back⟩ := steppedNanos_mono start step h
    obtain ⟨forth₀, back₀⟩ := steppedNanos_mono start step (Nat.zero_le read)
    simp only [IsExact] at left
    rcases Int.le_total 0 step.millis with hstep | hstep
    · have hfirst := forth₀ hstep
      have hthen := forth hstep
      omega
    · have hfirst := back₀ hstep
      have hthen := back hstep
      omega

end Courier.Time
