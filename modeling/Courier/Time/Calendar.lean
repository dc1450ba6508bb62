import Courier.Time.Instant

/-!
# The calendar

Days are counted from 1970-01-01 and read as dates of the proleptic Gregorian calendar. A year is
counted from March here, so that the leap day is its last day; 146 097 days make 400 such years.
`Date.dayNumber` counts the days of a date, `Date.ofDayNumber` finds the date of a day.
`Date.IsDay` says which date is which day without counting years: from each day to the next one.
-/

namespace Courier.Time

/-- A date of the proleptic Gregorian calendar. -/
@[ext] structure Date where
  year : Int
  month : Nat
  day : Nat
deriving DecidableEq, Repr

namespace Date

/-- A year that has a 29 February. -/
def isLeapYear (year : Int) : Bool :=
  year % 4 = 0 && (year % 100 != 0 || year % 400 = 0)

/-- How many days a month has. -/
def daysInMonth (year : Int) (month : Nat) : Nat :=
  if month = 2 then (if isLeapYear year then 29 else 28)
  else if month = 4 ∨ month = 6 ∨ month = 9 ∨ month = 11 then 30
  else 31

/-- A date that the calendar has. -/
def Valid (d : Date) : Prop :=
  1 ≤ d.month ∧ d.month ≤ 12 ∧ 1 ≤ d.day ∧ d.day ≤ daysInMonth d.year d.month

instance (d : Date) : Decidable d.Valid :=
  inferInstanceAs (Decidable (_ ∧ _ ∧ _ ∧ _))

/-- The days from 0000-03-01 to 1970-01-01. -/
def epochShift : Int := 719468

/-- The days of an era of 400 years before its year `y`, counted from 0. -/
def daysBeforeYear (y : Int) : Int := 365 * y + y / 4 - y / 100

/-- The year of an era, counted from 0, that holds this day of the era. The last of the four
centuries, and the last of four years, may be a day longer than the others. -/
def yearOfEra (day : Int) : Int :=
  let century := min (day / 36524) 3
  let dayOfCentury := day - 36524 * century
  let fours := dayOfCentury / 1461
  let dayOfFours := dayOfCentury - 1461 * fours
  100 * century + 4 * fours + min (dayOfFours / 365) 3

/-- The days of a year before its month `m`, counted from 0 for March. -/
def daysBeforeMonth (m : Int) : Int := (153 * m + 2) / 5

/-- The month, counted from 0 for March, that holds this day of the year. -/
def monthFromMarch (day : Int) : Int := (5 * day + 2) / 153

/-- The days from 1970-01-01 to a date, negative before it. -/
def dayNumber (d : Date) : Int :=
  -- January and February belong to the year that began in the March before.
  let year : Int := if d.month ≤ 2 then d.year - 1 else d.year
  let month : Int := if d.month ≤ 2 then d.month + 9 else d.month - 3
  year / 400 * 146097 + daysBeforeYear (year % 400) + daysBeforeMonth month + d.day - 1 - epochShift

/-- The date a number of days after 1970-01-01. -/
def ofDayNumber (n : Int) : Date :=
  let dayOfEra := (n + epochShift) % 146097
  let year := (n + epochShift) / 146097 * 400 + yearOfEra dayOfEra
  let dayOfYear := dayOfEra - daysBeforeYear (yearOfEra dayOfEra)
  let month := monthFromMarch dayOfYear
  let day := dayOfYear - daysBeforeMonth month + 1
  if month < 10 then ⟨year, (month + 3).toNat, day.toNat⟩
  else ⟨year + 1, (month - 9).toNat, day.toNat⟩

/-- The day after a date. -/
def next (d : Date) : Date :=
  if d.day < daysInMonth d.year d.month then ⟨d.year, d.month, d.day + 1⟩
  else if d.month < 12 then ⟨d.year, d.month + 1, 1⟩
  else ⟨d.year + 1, 1, 1⟩

/-- A date is this many days after 1970-01-01, as one finds by going from day to day. -/
inductive IsDay : Int → Date → Prop where
  | epoch : IsDay 0 ⟨1970, 1, 1⟩
  | later {n : Int} {d : Date} (day : IsDay n d) : IsDay (n + 1) d.next
  | earlier {n : Int} {d : Date} (valid : d.Valid) (day : IsDay (n + 1) d.next) : IsDay n d

end Date

/-- The reading of calendar and clock at an instant, in UTC. -/
@[ext] structure Civil where
  date : Date
  hour : Nat
  minute : Nat
  /-- Sixty during a leap second. -/
  second : Nat
deriving DecidableEq, Repr

/-- A date of the calendar and a time of day. Any minute may have a second sixty. -/
structure Civil.Valid (c : Civil) : Prop where
  date : c.date.Valid
  hour : c.hour < 24
  minute : c.minute < 60
  second : c.second ≤ 60

/-- This reading is so many seconds after 1970-01-01T00:00:00, all days being of equal length. -/
def Civil.IsSecond (n : Int) (c : Civil) : Prop :=
  ∃ day, Date.IsDay day c.date ∧ n = 86400 * day + 3600 * c.hour + 60 * c.minute + c.second

/-- The hour on a twelve-hour dial, from 1 to 12. -/
def Civil.hourOfHalf (c : Civil) : Nat :=
  if c.hour % 12 = 0 then 12 else c.hour % 12

/-- The date and time of day at an instant. -/
def Instant.civil (t : Instant) : Civil :=
  let ofDay := (t.secs % 86400).toNat
  { date := Date.ofDayNumber (t.secs / 86400)
    hour := ofDay / 3600
    minute := ofDay / 60 % 60
    second := ofDay % 60 + t.nanos / nanosPerSecond }

/-! ## Laws -/

namespace Date

theorem yearOfEra_bounds {day : Int} (h₀ : 0 ≤ day) (h₁ : day < 146097) :
    0 ≤ yearOfEra day ∧ yearOfEra day < 400 := by
  simp only [yearOfEra]
  omega

theorem dayOfYear_bounds {day : Int} (h₀ : 0 ≤ day) (h₁ : day < 146097) :
    0 ≤ day - daysBeforeYear (yearOfEra day) ∧ day - daysBeforeYear (yearOfEra day) ≤ 365 := by
  simp only [daysBeforeYear, yearOfEra]
  generalize hc : min (day / 36524) 3 = c
  generalize hq : (day - 36524 * c) / 1461 = q
  generalize hy : min ((day - 36524 * c - 1461 * q) / 365) 3 = y
  have hq' : 0 ≤ q ∧ q ≤ 24 := by omega
  have hy' : 0 ≤ y ∧ y ≤ 3 := by omega
  -- Dividing the year by 4 and by 100 gives back the parts it was put together from.
  have h4 : (100 * c + 4 * q + y) / 4 = 25 * c + q := by omega
  have h100 : (100 * c + 4 * q + y) / 100 = c := by omega
  rw [h4, h100]
  omega

theorem monthFromMarch_bounds {day : Int} (h₀ : 0 ≤ day) (h₁ : day ≤ 365) :
    0 ≤ monthFromMarch day ∧ monthFromMarch day ≤ 11 := by
  unfold monthFromMarch
  omega

theorem daysBeforeMonth_le (day : Int) :
    daysBeforeMonth (monthFromMarch day) ≤ day := by
  unfold daysBeforeMonth monthFromMarch
  omega

/-- The date found for a day has that day's number. -/
theorem dayNumber_ofDayNumber (n : Int) : (ofDayNumber n).dayNumber = n := by
  have hd₀ : 0 ≤ (n + epochShift) % 146097 := by omega
  have hd₁ : (n + epochShift) % 146097 < 146097 := by omega
  have hn : n = (n + epochShift) / 146097 * 146097 + (n + epochShift) % 146097 - epochShift := by
    omega
  unfold ofDayNumber
  -- From here on the day of the era is a variable that is only known to lie within the era.
  generalize (n + epochShift) % 146097 = doe at *
  generalize (n + epochShift) / 146097 = era at *
  have hy := yearOfEra_bounds hd₀ hd₁
  have hdy := dayOfYear_bounds hd₀ hd₁
  have hm := monthFromMarch_bounds hdy.1 hdy.2
  have hle := daysBeforeMonth_le (doe - daysBeforeYear (yearOfEra doe))
  simp only
  generalize yearOfEra doe = yoe at *
  generalize hdoy : doe - daysBeforeYear yoe = doy at *
  generalize monthFromMarch doy = m at *
  have hera : (era * 400 + yoe) / 400 = era := by omega
  have hyoe : (era * 400 + yoe) % 400 = yoe := by omega
  -- Months from March to December lie in the year itself, the other two in the next one.
  split
  · have h3 : ¬ (m + 3).toNat ≤ 2 := by omega
    have e1 : (((m + 3).toNat : Nat) : Int) - 3 = m := by omega
    simp only [dayNumber, if_neg h3, hera, hyoe, e1]
    omega
  · have h9 : (m - 9).toNat ≤ 2 := by omega
    have e1 : (((m - 9).toNat : Nat) : Int) + 9 = m := by omega
    have e2 : era * 400 + yoe + 1 - 1 = era * 400 + yoe := by omega
    simp only [dayNumber, if_pos h9, e1, e2, hera, hyoe]
    omega

end Date

end Courier.Time
