import Courier.Time.Calendar
import Mathlib.Tactic.IntervalCases

/-!
# The calendar goes on day by day

The date that is found for a day is a date of the calendar, and the one found for the next day is
the day after it. So the dates found by counting years and months are those that one comes to by
going from day to day, with the lengths of the months and nothing else.
-/

namespace Courier.Time

namespace Date

/-! ## Years and months -/

theorem isLeapYear_iff (year : Int) :
    isLeapYear year = true ↔ year % 4 = 0 ∧ (year % 100 ≠ 0 ∨ year % 400 = 0) := by
  simp [isLeapYear]

/-- The days before a year, without the eras. -/
theorem daysBeforeYear_add (year : Int) :
    year / 400 * 146097 + daysBeforeYear (year % 400) =
      365 * year + year / 4 - year / 100 + year / 400 := by
  unfold daysBeforeYear
  omega

/-- A year counted from March has the leap day of the calendar year in which it ends. -/
theorem daysBeforeYear_next (year : Int) :
    (year + 1) / 400 * 146097 + daysBeforeYear ((year + 1) % 400) =
      year / 400 * 146097 + daysBeforeYear (year % 400) +
        if isLeapYear (year + 1) then 366 else 365 := by
  rw [daysBeforeYear_add, daysBeforeYear_add]
  by_cases h : isLeapYear (year + 1) = true
  · rw [if_pos h]
    rw [isLeapYear_iff] at h
    omega
  · rw [if_neg h]
    rw [isLeapYear_iff] at h
    omega

/-- A month from March on ends where the next one is said to begin. -/
theorem daysBeforeMonth_next {month : Nat} (year : Int) (h₀ : 3 ≤ month) (h₁ : month ≤ 12) :
    daysBeforeMonth (month - 2) = daysBeforeMonth (month - 3) + daysInMonth year month := by
  interval_cases month
  all_goals rfl

theorem daysInMonth_pos (year : Int) (month : Nat) : 1 ≤ daysInMonth year month := by
  unfold daysInMonth
  split_ifs <;> omega

/-- January and February count as the last months of the year before. -/
theorem dayNumber_of_le_two {month : Nat} (year : Int) (day : Nat) (h : month ≤ 2) :
    dayNumber ⟨year, month, day⟩ = (year - 1) / 400 * 146097 + daysBeforeYear ((year - 1) % 400) +
      daysBeforeMonth (month + 9) + day - 1 - epochShift := by
  simp only [dayNumber, if_pos h]

/-- Years are counted from March on. -/
theorem dayNumber_of_two_lt {month : Nat} (year : Int) (day : Nat) (h : 2 < month) :
    dayNumber ⟨year, month, day⟩ = year / 400 * 146097 + daysBeforeYear (year % 400) +
      daysBeforeMonth (month - 3) + day - 1 - epochShift := by
  simp only [dayNumber, if_neg (Nat.not_le.mpr h)]

/-- The next day is a day of the calendar. -/
theorem valid_next {d : Date} (h : d.Valid) : d.next.Valid := by
  obtain ⟨h1, h12, hd, hlast⟩ := h
  unfold next
  by_cases hday : d.day < daysInMonth d.year d.month
  · rw [if_pos hday]
    exact ⟨h1, h12, Nat.le_add_left 1 _, hday⟩
  · rw [if_neg hday]
    by_cases hmonth : d.month < 12
    · rw [if_pos hmonth]
      exact ⟨Nat.le_add_left 1 _, hmonth, Nat.le_refl 1, daysInMonth_pos _ _⟩
    · rw [if_neg hmonth]
      exact ⟨Nat.le_refl 1, Nat.le_add_left 1 11, Nat.le_refl 1, daysInMonth_pos _ _⟩

/-- The first of a month has the number after that of the last day before it. -/
theorem dayNumber_next_month {year : Int} {month : Nat} (h₀ : 1 ≤ month) (h₁ : month < 12) :
    dayNumber ⟨year, month + 1, 1⟩ = dayNumber ⟨year, month, daysInMonth year month⟩ + 1 := by
  obtain rfl | rfl | hmonth : month = 1 ∨ month = 2 ∨ 2 < month := by omega
  · rw [dayNumber_of_le_two year 1 (by decide), dayNumber_of_le_two year _ (by decide)]
    show _ + 337 + 1 - 1 - epochShift = _ + 306 + 31 - 1 - epochShift + 1
    omega
  · -- The year that is counted from March ends here.
    rw [dayNumber_of_two_lt year 1 (by decide), dayNumber_of_le_two year _ (by decide)]
    have hyear := daysBeforeYear_next (year - 1)
    rw [Int.sub_add_cancel] at hyear
    have hmonth : (daysInMonth year 2 : Int) + 337 = if isLeapYear year then 366 else 365 := by
      show ((if isLeapYear year then 29 else 28 : Nat) : Int) + 337 = _
      split_ifs <;> rfl
    show _ + 0 + 1 - 1 - epochShift = _ + 337 + (daysInMonth year 2 : Int) - 1 - epochShift + 1
    omega
  · rw [dayNumber_of_two_lt year 1 (by omega), dayNumber_of_two_lt year _ hmonth]
    have hnext := daysBeforeMonth_next year hmonth (Nat.le_of_lt h₁)
    have hindex : ((month + 1 : Nat) : Int) - 3 = month - 2 := by omega
    rw [hindex]
    omega

/-- New Year's Day is the day after the last of December. -/
theorem dayNumber_next_year (year : Int) :
    dayNumber ⟨year + 1, 1, 1⟩ = dayNumber ⟨year, 12, 31⟩ + 1 := by
  rw [dayNumber_of_le_two (year + 1) 1 (by decide), dayNumber_of_two_lt year 31 (by decide),
    Int.add_sub_cancel]
  show _ + 306 + 1 - 1 - epochShift = _ + 275 + 31 - 1 - epochShift + 1
  omega

/-- The day after a date has the next number. -/
theorem dayNumber_next {d : Date} (h : d.Valid) : d.next.dayNumber = d.dayNumber + 1 := by
  obtain ⟨year, month, day⟩ := d
  obtain ⟨h1, h12, hd, hlast⟩ := h
  dsimp only at h1 h12 hd hlast
  unfold next
  dsimp only
  by_cases hday : day < daysInMonth year month
  · rw [if_pos hday]
    simp only [dayNumber]
    omega
  · obtain rfl : day = daysInMonth year month := by omega
    rw [if_neg hday]
    by_cases hmonth : month < 12
    · rw [if_pos hmonth]
      exact dayNumber_next_month h1 hmonth
    · obtain rfl : month = 12 := by omega
      rw [if_neg hmonth]
      exact dayNumber_next_year year

/-! ## Dates of days -/

/-- Only a leap year has a 366th day. -/
theorem leap_of_last_day {day : Int} (h₀ : 0 ≤ day) (h₁ : day < 146097)
    (h : day - daysBeforeYear (yearOfEra day) = 365) : isLeapYear (yearOfEra day + 1) = true := by
  rw [isLeapYear_iff]
  simp only [daysBeforeYear, yearOfEra] at h ⊢
  generalize hc : min (day / 36524) 3 = c at *
  generalize hq : (day - 36524 * c) / 1461 = q at *
  generalize hy : min ((day - 36524 * c - 1461 * q) / 365) 3 = y at *
  have h4 : (100 * c + 4 * q + y) / 4 = 25 * c + q := by omega
  have h100 : (100 * c + 4 * q + y) / 100 = c := by omega
  rw [h4, h100] at h
  omega

/-- The year of an era is found again from any of its days. -/
theorem yearOfEra_add {year day : Int} (hyear₀ : 0 ≤ year) (hyear₁ : year < 400) (h₀ : 0 ≤ day)
    (h₁ : day ≤ 365) (hleap : day = 365 → isLeapYear (year + 1) = true) :
    0 ≤ daysBeforeYear year + day ∧ daysBeforeYear year + day < 146097 ∧
      yearOfEra (daysBeforeYear year + day) = year := by
  rw [isLeapYear_iff] at hleap
  -- The year of the era in centuries, years of four and years.
  obtain ⟨c, q, y, rfl, hc, hq, hy⟩ : ∃ c q y : Int, year = 100 * c + 4 * q + y ∧
      (0 ≤ c ∧ c ≤ 3) ∧ (0 ≤ q ∧ q ≤ 24) ∧ 0 ≤ y ∧ y ≤ 3 :=
    ⟨year / 100, year % 100 / 4, year % 4, by omega, by omega, by omega, by omega⟩
  have hbefore : daysBeforeYear (100 * c + 4 * q + y) = 36524 * c + 1461 * q + 365 * y := by
    unfold daysBeforeYear
    omega
  rw [hbefore]
  have hlast : day = 365 → y = 3 ∧ (q < 24 ∨ c = 3) := by
    intro h
    have hyear := hleap h
    omega
  clear hleap
  have hcentury : min ((36524 * c + 1461 * q + 365 * y + day) / 36524) 3 = c := by omega
  have hfours : (36524 * c + 1461 * q + 365 * y + day - 36524 * c) / 1461 = q := by omega
  have hyears :
      min ((36524 * c + 1461 * q + 365 * y + day - 36524 * c - 1461 * q) / 365) 3 = y := by omega
  refine ⟨by omega, by omega, ?_⟩
  unfold yearOfEra
  simp only [hcentury, hfours, hyears]

/-- The month of a day of the year is the one that begins last before it. -/
theorem monthFromMarch_add {month day : Int} (h₀ : 0 ≤ day)
    (h₁ : daysBeforeMonth month + day < daysBeforeMonth (month + 1)) :
    monthFromMarch (daysBeforeMonth month + day) = month := by
  unfold daysBeforeMonth at *
  unfold monthFromMarch
  omega

theorem lt_daysBeforeMonth_next (day : Int) : day < daysBeforeMonth (monthFromMarch day + 1) := by
  unfold daysBeforeMonth monthFromMarch
  omega

/-- The calendar repeats itself after 400 years. -/
theorem isLeapYear_add_era (era year : Int) :
    isLeapYear (era * 400 + year) = isLeapYear year := by
  rw [Bool.eq_iff_iff, isLeapYear_iff, isLeapYear_iff]
  omega

/-- Every number is that of a day of the calendar. -/
theorem valid_ofDayNumber (n : Int) : (ofDayNumber n).Valid := by
  have hd₀ : 0 ≤ (n + epochShift) % 146097 := by omega
  have hd₁ : (n + epochShift) % 146097 < 146097 := by omega
  unfold ofDayNumber
  generalize (n + epochShift) % 146097 = doe at *
  generalize (n + epochShift) / 146097 = era
  have hdy := dayOfYear_bounds hd₀ hd₁
  have hleap := leap_of_last_day hd₀ hd₁
  rw [← isLeapYear_add_era era, ← Int.add_assoc] at hleap
  dsimp only
  generalize era * 400 + yearOfEra doe = year at *
  generalize doe - daysBeforeYear (yearOfEra doe) = doy at *
  have hm := monthFromMarch_bounds hdy.1 hdy.2
  have hle := daysBeforeMonth_le doy
  have hlt := lt_daysBeforeMonth_next doy
  generalize monthFromMarch doy = m at *
  by_cases hmonth : m < 10
  · have hstart : ((m + 3).toNat : Int) - 3 = m := by omega
    have hend : ((m + 3).toNat : Int) - 2 = m + 1 := by omega
    have hfirst : 3 ≤ (m + 3).toNat := by omega
    have hlength := daysBeforeMonth_next year hfirst (by omega)
    rw [hstart, hend] at hlength
    rw [if_pos hmonth]
    show 1 ≤ (m + 3).toNat ∧ (m + 3).toNat ≤ 12 ∧ 1 ≤ (doy - daysBeforeMonth m + 1).toNat ∧
      (doy - daysBeforeMonth m + 1).toNat ≤ daysInMonth year (m + 3).toNat
    omega
  · rw [if_neg hmonth]
    -- January and February are those of the year after.
    obtain rfl | rfl : m = 10 ∨ m = 11 := by omega
    · have hfirst : 306 ≤ doy := hle
      have hlast : doy < 337 := hlt
      show 1 ≤ 1 ∧ 1 ≤ 12 ∧ 1 ≤ (doy - 306 + 1).toNat ∧ (doy - 306 + 1).toNat ≤ 31
      omega
    · have hfirst : 337 ≤ doy := hle
      show 1 ≤ 2 ∧ 2 ≤ 12 ∧ 1 ≤ (doy - 337 + 1).toNat ∧
        (doy - 337 + 1).toNat ≤ if isLeapYear (year + 1) then 29 else 28
      -- Only in a leap year has the year, counted from March, a day of this number.
      by_cases hlast : doy = 365
      · rw [if_pos (hleap hlast)]
        omega
      · split_ifs <;> omega

/-- A year, month and day counted from March are found again from the number of the day. -/
theorem ofDayNumber_of_march (era : Int) {year month day : Int} (hyear : 0 ≤ year ∧ year < 400)
    (hmonth : 0 ≤ month ∧ month ≤ 11) (h₀ : 0 ≤ day)
    (h₁ : daysBeforeMonth month + day < daysBeforeMonth (month + 1))
    (hlast : daysBeforeMonth month + day ≤ 365)
    (hleap : daysBeforeMonth month + day = 365 → isLeapYear (year + 1) = true) :
    ofDayNumber (era * 146097 + daysBeforeYear year + daysBeforeMonth month + day - epochShift) =
      if month < 10 then ⟨era * 400 + year, (month + 3).toNat, (day + 1).toNat⟩
      else ⟨era * 400 + year + 1, (month - 9).toNat, (day + 1).toNat⟩ := by
  have hdoy₀ : 0 ≤ daysBeforeMonth month + day := by
    unfold daysBeforeMonth
    omega
  obtain ⟨hdoe₀, hdoe₁, hyoe⟩ := yearOfEra_add hyear.1 hyear.2 hdoy₀ hlast hleap
  have hera : (era * 146097 + daysBeforeYear year + daysBeforeMonth month + day - epochShift +
      epochShift) / 146097 = era := by omega
  have hdoe : (era * 146097 + daysBeforeYear year + daysBeforeMonth month + day - epochShift +
      epochShift) % 146097 = daysBeforeYear year + (daysBeforeMonth month + day) := by omega
  have hdoy : daysBeforeYear year + (daysBeforeMonth month + day) - daysBeforeYear year =
      daysBeforeMonth month + day := by omega
  have hday : daysBeforeMonth month + day - daysBeforeMonth month = day := by omega
  unfold ofDayNumber
  simp only [hera, hdoe, hyoe, hdoy, monthFromMarch_add h₀ h₁, hday]

/-- January and February end within their year from March, and only a leap year makes it one day
longer. -/
theorem bounds_of_le_two {year : Int} {month day : Nat} (valid : Valid ⟨year, month, day⟩)
    (h : month ≤ 2) :
    daysBeforeMonth (month + 9) + (day - 1) < daysBeforeMonth (month + 9 + 1) ∧
      daysBeforeMonth (month + 9) + (day - 1) ≤ 365 ∧
      (daysBeforeMonth (month + 9) + (day - 1) = 365 → isLeapYear year = true) := by
  obtain ⟨h1, -, -, hday⟩ := valid
  obtain rfl | rfl : month = 1 ∨ month = 2 := by
    dsimp only at h1
    omega
  · have hjanuary : day ≤ 31 := hday
    show 306 + (day - 1 : Int) < 337 ∧ 306 + (day - 1 : Int) ≤ 365 ∧
      (306 + (day - 1 : Int) = 365 → _)
    omega
  · have hfebruary : day ≤ if isLeapYear year then 29 else 28 := hday
    show 337 + (day - 1 : Int) < 367 ∧ 337 + (day - 1 : Int) ≤ 365 ∧
      (337 + (day - 1 : Int) = 365 → _)
    by_cases hleap : isLeapYear year = true
    · rw [if_pos hleap] at hfebruary
      exact ⟨by omega, by omega, fun _ => hleap⟩
    · rw [if_neg hleap] at hfebruary
      omega

theorem bounds_of_two_lt {year : Int} {month day : Nat} (valid : Valid ⟨year, month, day⟩)
    (h : 2 < month) :
    daysBeforeMonth (month - 3) + (day - 1) < daysBeforeMonth (month - 3 + 1) ∧
      daysBeforeMonth (month - 3) + (day - 1) < 306 := by
  obtain ⟨-, h12, -, hday⟩ := valid
  dsimp only at h12 hday
  have hnext := daysBeforeMonth_next year h h12
  have hindex : (month : Int) - 3 + 1 = month - 2 := by omega
  have hlast : daysBeforeMonth (month - 2) ≤ 306 := by
    unfold daysBeforeMonth
    omega
  rw [hindex]
  omega

/-- The date of the day that a date has is the date itself. -/
theorem ofDayNumber_dayNumber {d : Date} (valid : d.Valid) : ofDayNumber d.dayNumber = d := by
  obtain ⟨year, month, day⟩ := d
  have h1 : 1 ≤ month := valid.1
  have h12 : month ≤ 12 := valid.2.1
  have hday : 1 ≤ day := valid.2.2.1
  by_cases hmonth : month ≤ 2
  · obtain ⟨hlength, hlast, hleap⟩ := bounds_of_le_two valid hmonth
    -- These months belong to the year that began in the March before.
    have hyear : (year - 1) / 400 * 400 + ((year - 1) % 400 + 1) = year := by omega
    have hera := isLeapYear_add_era ((year - 1) / 400) ((year - 1) % 400 + 1)
    rw [hyear] at hera
    rw [hera] at hleap
    have hyoe : 0 ≤ (year - 1) % 400 ∧ (year - 1) % 400 < 400 := by omega
    have hindex : 0 ≤ (month : Int) + 9 ∧ (month : Int) + 9 ≤ 11 := by omega
    have hmarch := ofDayNumber_of_march ((year - 1) / 400) hyoe hindex (by omega) hlength hlast hleap
    rw [dayNumber_of_le_two year day hmonth, Int.add_sub_assoc, hmarch, if_neg (by omega)]
    congr 1
    all_goals omega
  · have hlate : 2 < month := Nat.lt_of_not_le hmonth
    obtain ⟨hlength, hlast⟩ := bounds_of_two_lt valid hlate
    have hyoe : 0 ≤ year % 400 ∧ year % 400 < 400 := by omega
    have hindex : 0 ≤ (month : Int) - 3 ∧ (month : Int) - 3 ≤ 11 := by omega
    have hmarch := ofDayNumber_of_march (year / 400) hyoe hindex (by omega) hlength (by omega)
      (by omega)
    rw [dayNumber_of_two_lt year day hlate, Int.add_sub_assoc, hmarch, if_pos (by omega)]
    congr 1
    all_goals omega

/-! ## From day to day -/

/-- The next number is that of the next day. -/
theorem ofDayNumber_next (n : Int) : (ofDayNumber n).next = ofDayNumber (n + 1) := by
  have hvalid := valid_ofDayNumber n
  have hnumber := dayNumber_next hvalid
  rw [dayNumber_ofDayNumber] at hnumber
  rw [← hnumber, ofDayNumber_dayNumber (valid_next hvalid)]

/-- Going from day to day one comes to the date that is found for a day, and to no other. -/
theorem isDay_iff {n : Int} {d : Date} : IsDay n d ↔ d = ofDayNumber n := by
  constructor
  · intro h
    induction h with
    | epoch => decide +kernel
    | later _ ih => rw [ih, ofDayNumber_next]
    | @earlier n d valid _ ih =>
      have hnumber := dayNumber_next valid
      rw [ih, dayNumber_ofDayNumber] at hnumber
      rw [← ofDayNumber_dayNumber valid]
      congr 1
      omega
  · rintro rfl
    induction n using Int.induction_on with
    | zero => exact (by decide +kernel : ofDayNumber 0 = ⟨1970, 1, 1⟩) ▸ .epoch
    | succ n ih => exact ofDayNumber_next n ▸ .later ih
    | pred n ih =>
      apply IsDay.earlier (valid_ofDayNumber _)
      rw [ofDayNumber_next, Int.sub_add_cancel]
      exact ih

end Date

/-! ## Calendar and clock -/

namespace Instant

theorem isLeap_iff (t : Instant) : t.isLeap = true ↔ nanosPerSecond ≤ t.nanos := by
  simp [isLeap]

theorem second_civil (t : Instant) : t.civil.second = (t.secs % 60).toNat + t.nanos / nanosPerSecond := by
  unfold civil
  dsimp only
  omega

/-- Every instant is read as a date and a time of day. -/
theorem valid_civil (t : Instant) : t.civil.Valid := by
  have hnanos := t.nanos_lt
  have hleap := t.leap_at_59
  constructor
  case date => exact Date.valid_ofDayNumber _
  case hour =>
    unfold civil
    dsimp only
    omega
  case minute => exact Nat.mod_lt _ (by decide)
  case second =>
    rw [second_civil]
    unfold nanosPerSecond at *
    omega

/-- Only leap seconds are numbered 60. -/
theorem second_eq_sixty_iff (t : Instant) : t.civil.second = 60 ↔ t.isLeap = true := by
  have hnanos := t.nanos_lt
  have hleap := t.leap_at_59
  rw [isLeap_iff, second_civil]
  unfold nanosPerSecond at *
  omega

/-- Calendar and clock tell all seconds apart. -/
theorem secs_eq_of_civil_eq {t t' : Instant} (h : t.civil = t'.civil) :
    t.secs = t'.secs ∧ t.nanos / nanosPerSecond = t'.nanos / nanosPerSecond := by
  have hday : t.secs / 86400 = t'.secs / 86400 := by
    rw [← Date.dayNumber_ofDayNumber (t.secs / 86400), ← Date.dayNumber_ofDayNumber (t'.secs / 86400)]
    exact congrArg (·.date.dayNumber) h
  have hhour : (t.secs % 86400).toNat / 3600 = (t'.secs % 86400).toNat / 3600 :=
    congrArg Civil.hour h
  have hminute : (t.secs % 86400).toNat / 60 % 60 = (t'.secs % 86400).toNat / 60 % 60 :=
    congrArg Civil.minute h
  have hsecond := congrArg Civil.second h
  rw [second_civil, second_civil] at hsecond
  -- A second sixty is the fifty-ninth of its minute, and the only one that is split in two.
  have hleap := t.leap_at_59
  have hleap' := t'.leap_at_59
  have hnanos := t.nanos_lt
  have hnanos' := t'.nanos_lt
  unfold nanosPerSecond at *
  omega

/-- The reading of an instant is at its second, with leap seconds counted. -/
theorem isSecond_civil (t : Instant) : t.civil.IsSecond (t.secs + (t.nanos / nanosPerSecond : Nat)) := by
  refine ⟨t.secs / 86400, Date.isDay_iff.mpr rfl, ?_⟩
  unfold civil
  dsimp only
  omega

end Instant

end Courier.Time
