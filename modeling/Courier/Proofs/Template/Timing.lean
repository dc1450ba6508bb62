import Courier.Template.Timing
import Courier.Proofs.Template.Tracking
import Courier.Proofs.Time.Clock

/-!
# Sessions on a stepping clock

The steps of a session read one clock between them, and each reading counts, also one that is out of
range. So a session takes the readings of its clock in a row, and on a stepping clock they are
exact.
-/

namespace Courier.Template.Session

/-! ## Steps and runs -/

/-- A step that reads the clock takes one reading, whatever comes of it. -/
theorem clock_step (s : Session) (step : SessionStep) :
    (s.step step).2.clock = if step.readsClock then s.clock.read.2 else s.clock := by
  cases step with
  | readClock =>
    unfold Session.step
    dsimp only
    cases s.clock.read.1 <;> rfl
  | create index =>
    unfold Session.step
    dsimp only
    cases s.clock.read.1 <;> rfl
  | setTracking tracking => rfl
  | createAt index instant tracking => rfl
  | copy number =>
    cases found : s.contexts[number]? <;> simp only [Session.step, found] <;> rfl
  | render number name format =>
    cases found : s.contexts[number]? <;> simp only [Session.step, found] <;> rfl
  | materialize number template =>
    cases found : s.contexts[number]? <;> cases made : CompiledTemplate.compile template <;>
      simp only [Session.step, found, made] <;> rfl

/-- The reply to a step that reads the clock tells what the clock shows. -/
theorem shown?_step (s : Session) {step : SessionStep} (reads : step.readsClock = true) :
    (s.step step).1.shown? = some s.clock.read.1 := by
  cases step with
  | readClock =>
    unfold Session.step
    dsimp only
    cases s.clock.read.1 <;> rfl
  | create index =>
    unfold Session.step
    dsimp only
    cases s.clock.read.1 <;> rfl
  | _ => cases reads

/-- A run of steps uses up its readings. -/
theorem clock_after (s : Session) (run : List SessionStep) :
    (s.after run).clock = s.clock.skip (readings run) := by
  induction run generalizing s with
  | nil => rfl
  | cons step run ih =>
    have hnext : (s.after (step :: run)).clock = (s.step step).2.clock.skip (readings run) :=
      ih (s.step step).2
    rw [hnext, clock_step, readings, readings, List.countP_cons]
    split
    · rw [Nat.add_comm, ← Time.Clock.skip_skip]
      rfl
    · rfl

/-- A session takes the readings of its clock in a row. -/
theorem shown_eq (s : Session) (run : List SessionStep) :
    s.shown run = (List.range' s.clock.reads (readings run)).map s.clock.reading := by
  induction run generalizing s with
  | nil => rfl
  | cons step run ih =>
    rw [shown, ih, clock_step, readings, readings, List.countP_cons]
    cases hreads : step.readsClock with
    | true =>
      rw [if_pos rfl, if_pos rfl, if_pos rfl, shown?_step s hreads, List.range'_succ, List.map_cons]
      rfl
    | false => rfl

/-- The readings shown are those of the clock, in order. -/
theorem getElem?_shown {s : Session} {run : List SessionStep} {n : Nat}
    {reading : Option Time.Instant} : (s.shown run)[n]? = some reading ↔
      n < readings run ∧ s.clock.reading (s.clock.reads + n) = reading := by
  rw [shown_eq, List.getElem?_map]
  by_cases hn : n < readings run
  · rw [List.getElem?_range' hn, Option.map_some, Option.some_inj, Nat.one_mul]
    exact (and_iff_right hn).symm
  · have hnone : (List.range' s.clock.reads (readings run))[n]? = none := by
      rw [List.getElem?_eq_none_iff, List.length_range']
      omega
    rw [hnone]
    constructor
    · rintro ⟨⟩
    · rintro ⟨hlt, -⟩
      exact absurd hlt hn

/-! ## Exact readings -/

/-- The readings of a session on a clock that goes on by `step` from `start`. -/
structure Timed (start : Time.Instant) (step : Time.Span) (s : Session) (run : List SessionStep) :
    Prop where
  /-- Each step that reads the clock takes one reading, also when it is out of range. -/
  counted : (s.shown run).length = readings run ∧ (s.after run).clock.reads = readings run
  /-- A reading is the start and as many steps as readings came before, to the nanosecond, or none
  when that is out of the range of instants. -/
  exact : ∀ n reading, (s.shown run)[n]? = some reading →
    Time.IsExact (Time.steppedNanos start step n) reading
  /-- The clock does not turn back. -/
  forth : 0 ≤ step.millis →
    ((s.shown run).filterMap id).Pairwise fun t t' => t.epochNanos ≤ t'.epochNanos
  back : step.millis ≤ 0 →
    ((s.shown run).filterMap id).Pairwise fun t t' => t'.epochNanos ≤ t.epochNanos
  /-- After a reading that is out of range all are. -/
  stopped : ∀ m n, m ≤ n → n < readings run → (s.shown run)[m]? = some none →
    (s.shown run)[n]? = some none

/-- As many readings as a machine word can count are exact, whatever other steps are taken in
between. -/
theorem timed_of_stepping {start : Time.Instant} {step : Time.Span} {s : Session}
    {run : List SessionStep} (noLeap : start.isLeap = false)
    (opened : s.clock = .stepping start step.millis) (few : readings run ≤ 2 ^ 63) :
    Timed start step s run := by
  have hreads : s.clock.reads = 0 := by
    rw [opened]
    rfl
  have hget : ∀ n reading, (s.shown run)[n]? = some reading ↔
      n < readings run ∧ s.clock.reading n = reading := by
    intro n reading
    rw [getElem?_shown, hreads, Nat.zero_add]
  have hexact : ∀ n < readings run,
      Time.IsExact (Time.steppedNanos start step n) (s.clock.reading n) := by
    intro n hn
    rw [opened]
    exact Time.Clock.isExact_stepping noLeap step (Nat.lt_of_lt_of_le hn few)
  -- Instants in a row are in the order of where the clock is at their readings.
  have hpairs : ∀ R : Int → Int → Prop,
      (∀ m n, m ≤ n → R (Time.steppedNanos start step m) (Time.steppedNanos start step n)) →
      ((s.shown run).filterMap id).Pairwise fun t t' => R t.epochNanos t'.epochNanos := by
    intro R hR
    rw [List.pairwise_filterMap, List.pairwise_iff_getElem]
    intro m n hm hn hlt t ht t' ht'
    obtain ⟨hm', hread⟩ := (hget m _).mp (List.getElem?_eq_some_iff.mpr ⟨hm, ht⟩)
    obtain ⟨hn', hread'⟩ := (hget n _).mp (List.getElem?_eq_some_iff.mpr ⟨hn, ht'⟩)
    have hnanos := hexact m hm'
    have hnanos' := hexact n hn'
    rw [hread] at hnanos
    rw [hread'] at hnanos'
    rw [hnanos.2, hnanos'.2]
    exact hR m n (Nat.le_of_lt hlt)
  constructor
  case counted =>
    constructor
    · rw [shown_eq, List.length_map, List.length_range']
    · show (s.after run).clock.reads = readings run
      rw [clock_after]
      show s.clock.reads + readings run = readings run
      rw [hreads, Nat.zero_add]
  case exact =>
    intro n reading hn
    obtain ⟨hlt, rfl⟩ := (hget n reading).mp hn
    exact hexact n hlt
  case forth =>
    intro forth
    exact hpairs (· ≤ ·) fun m n hle => (Time.steppedNanos_mono start step hle).1 forth
  case back =>
    intro back
    exact hpairs (· ≥ ·) fun m n hle => (Time.steppedNanos_mono start step hle).2 back
  case stopped =>
    intro m n hle hn hm
    obtain ⟨hlt, hnone⟩ := (hget m none).mp hm
    have hleft := hexact m hlt
    rw [hnone] at hleft
    exact (hget n none).mpr ⟨hn, hleft.none_of_none noLeap hle (hexact n hn)⟩

/-- The second reading is out of range. For the third the product is cut off, and what is left of it
is no span. -/
theorem timed_of_longest_step :
    let start : Time.Instant := ⟨1, 5, by decide, by decide, by decide, by decide⟩
    let step : Time.Span := ⟨-Time.maxSpanMillis, by decide, by decide⟩
    let s : Session :=
      { clock := .stepping start step.millis, supply := .seeded 0, tracking := true }
    let run : List SessionStep := [.create 7, .render 0 .uuid none, .readClock, .create 8]
    start.isLeap = false ∧ readings run = 3 ∧ s.shown run = [some start, none, none] ∧
      Timed start step s run := by
  intro start step s run
  have noLeap : start.isLeap = false := by decide
  have few : readings run ≤ 2 ^ 63 := by decide
  exact ⟨noLeap, rfl, by decide +kernel, timed_of_stepping noLeap rfl few⟩

end Courier.Template.Session
