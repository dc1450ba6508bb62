import Courier.Template.Timestamp
import Courier.Proofs.Template.Directive
import Courier.Proofs.Time.Calendar
import Courier.Proofs.Time.Reading

/-!
# Timestamps show their instant

A pattern that is a single token is compiled to that token, so what it shows is its field of the
instant. The fields are those of one reading of calendar and clock, and a reading with milliseconds
can be taken apart again from the text: behind the year all parts have a fixed length.
-/

namespace Courier.Time.DateToken

/-- A year is read back, whether or not it has a sign. -/
theorem readSigned?_yearText (year : Int) : Decimal.readSigned? (yearText year) = some year := by
  unfold yearText
  by_cases hplain : 0 ≤ year ∧ year ≤ 9999
  · rw [if_pos hplain, Decimal.readSigned?_of_read? (Decimal.read?_padded 4 _),
      Int.toNat_of_nonneg hplain.1]
  · rw [if_neg hplain]
    by_cases hneg : year < 0
    · rw [if_pos hneg]
      show (Decimal.read? (Decimal.padded 4 year.natAbs)).map (fun n : Nat => -(n : Int)) = some year
      rw [Decimal.read?_padded, Option.map_some]
      congr 1
      omega
    · rw [if_neg hneg]
      show (Decimal.read? (Decimal.padded 4 year.natAbs)).map Int.ofNat = some year
      rw [Decimal.read?_padded, Option.map_some]
      congr 1
      exact Int.natAbs_of_nonneg (Int.le_of_not_gt hneg)

end Courier.Time.DateToken

namespace Courier.Template

open Time

/-! ## Tokens -/

/-- The spelling of a token is a pattern of this token alone. -/
theorem classify_spelling (token : DateToken) :
    Directive.classify .timestamp (some token.spelling) = .ok (.date ⟨[.field token]⟩) := by
  cases token <;> decide +kernel

/-- A token stands for its field of the instant. -/
theorem stamp_spelling (token : DateToken) (t : Instant) :
    stamp (some token.spelling) t = .ok (String.ofList (token.render t)) := by
  rw [stamp, Directive.render, classify_spelling]
  show Except.ok (String.ofList (token.render t ++ [])) = _
  rw [List.append_nil]

/-- A token shows the number that its text is read as. -/
theorem shows_iff {t : Instant} {token : DateToken} {n : Int} :
    Shows t token n ↔ Decimal.readSigned? (token.render t) = some n := by
  unfold Shows
  rw [stamp_spelling]
  constructor
  · rintro ⟨text, htext, hn⟩
    cases htext
    rw [String.toList_ofList] at hn
    exact hn
  · intro hn
    exact ⟨_, rfl, by rw [String.toList_ofList, hn]⟩

theorem shows_of_read {t : Instant} {token : DateToken} {n : Nat}
    (h : Decimal.read? (token.render t) = some n) : Shows t token n :=
  shows_iff.mpr (Decimal.readSigned?_of_read? h)

/-- A token shows one number only. -/
theorem Shows.unique {t : Instant} {token : DateToken} {m n : Int} (hm : Shows t token m)
    (hn : Shows t token n) : m = n := by
  rw [shows_iff] at hm hn
  exact Option.some.inj (hm.symm.trans hn)

/-- The two tokens for a number differ in the zero alone. -/
theorem unpadded_of_twoDigits? {t : Instant} {token token2 : DateToken}
    (h : twoDigits? token = some token2) : ∃ n : Nat, token.render t = Decimal.digits n ∧
      token2.render t = Decimal.padded 2 n := by
  cases token <;> cases h <;> exact ⟨_, rfl, rfl⟩

/-! ## Patterns -/

theorem classify_standard :
    Directive.classify .timestamp (some "YYYY-MM-DD[T]HH:mm:ss[Z]") = .ok (.date ⟨[
      .field .year, .verbatim ['-'], .field .month2, .verbatim ['-'], .field .day2, .verbatim ['T'],
      .field .hour2, .verbatim [':'], .field .minute2, .verbatim [':'], .field .second2,
      .verbatim ['Z']]⟩) := by
  decide +kernel

theorem classify_milli :
    Directive.classify .timestamp (some "YYYY-MM-DD HH:mm:ss.SSS") = .ok (.date ⟨[
      .field .year, .verbatim ['-'], .field .month2, .verbatim ['-'], .field .day2, .verbatim [' '],
      .field .hour2, .verbatim [':'], .field .minute2, .verbatim [':'], .field .second2,
      .verbatim ['.'], .field .milli3]⟩) := by
  decide +kernel

/-- The standard form is one of the patterns. -/
theorem stamp_standard (t : Instant) :
    stamp none t = stamp (some "YYYY-MM-DD[T]HH:mm:ss[Z]") t := by
  unfold stamp Directive.render
  rw [classify_standard]
  show Except.ok t.standardText = _
  unfold Instant.standardText
  simp [Except.map, Directive.apply, Pattern.format, PatternItem.render, DateToken.render]

/-- A date and a time without the year, and milliseconds. -/
def afterYear (c : Civil) (milli : Nat) : List Char :=
  '-' :: (Decimal.padded 2 c.date.month ++ '-' :: (Decimal.padded 2 c.date.day ++
    ' ' :: (Decimal.padded 2 c.hour ++ ':' :: (Decimal.padded 2 c.minute ++
    ':' :: (Decimal.padded 2 c.second ++ '.' :: Decimal.padded 3 milli)))))

/-- The pattern with milliseconds is written as a year and a text of fixed length behind it. -/
theorem stamp_milli (t : Instant) :
    stamp (some "YYYY-MM-DD HH:mm:ss.SSS") t =
      .ok (String.ofList (DateToken.yearText t.civil.date.year ++ afterYear t.civil t.milli)) := by
  unfold stamp Directive.render
  rw [classify_milli]
  simp [Except.map, Directive.apply, Pattern.format, PatternItem.render, DateToken.render, afterYear]

/-- Numbers of fixed width can be told from what follows them. -/
theorem padded_append_inj {width m n : Nat} {xs ys : List Char} (hwidth : width ≠ 0)
    (hm : m < 10 ^ width) (hn : n < 10 ^ width)
    (h : Decimal.padded width m ++ xs = Decimal.padded width n ++ ys) : m = n ∧ xs = ys := by
  have hlength : (Decimal.padded width m).length = (Decimal.padded width n).length := by
    rw [Decimal.length_padded_of_lt hwidth hm, Decimal.length_padded_of_lt hwidth hn]
  obtain ⟨hpadded, hrest⟩ := List.append_inj h hlength
  exact ⟨Decimal.padded_injective hpadded, hrest⟩

section AfterYear

variable {c c' : Civil} {milli milli' : Nat}

theorem fields_lt (hc : c.Valid) : c.date.month < 10 ^ 2 ∧ c.date.day < 10 ^ 2 ∧ c.hour < 10 ^ 2 ∧
    c.minute < 10 ^ 2 ∧ c.second < 10 ^ 2 := by
  obtain ⟨⟨-, hmonth, -, hday⟩, hhour, hminute, hsecond⟩ := hc
  have hlast : Date.daysInMonth c.date.year c.date.month ≤ 31 := by
    unfold Date.daysInMonth
    split_ifs <;> omega
  omega

/-- Behind the year the text is as long for every instant. -/
theorem length_afterYear (hc : c.Valid) (hmilli : milli < 10 ^ 3) :
    (afterYear c milli).length = 19 := by
  obtain ⟨hmonth, hday, hhour, hminute, hsecond⟩ := fields_lt hc
  have hmonth := Decimal.length_padded_of_lt (by decide) hmonth
  have hday := Decimal.length_padded_of_lt (by decide) hday
  have hhour := Decimal.length_padded_of_lt (by decide) hhour
  have hminute := Decimal.length_padded_of_lt (by decide) hminute
  have hsecond := Decimal.length_padded_of_lt (by decide) hsecond
  have hmilli := Decimal.length_padded_of_lt (by decide) hmilli
  unfold afterYear
  simp only [List.length_cons, List.length_append, hmonth, hday, hhour, hminute, hsecond, hmilli]

/-- The text behind the year tells all its numbers. -/
theorem afterYear_inj (hc : c.Valid) (hc' : c'.Valid)
    (h : afterYear c milli = afterYear c' milli') :
    c.date.month = c'.date.month ∧ c.date.day = c'.date.day ∧ c.hour = c'.hour ∧
      c.minute = c'.minute ∧ c.second = c'.second ∧ milli = milli' := by
  obtain ⟨hmonth, hday, hhour, hminute, hsecond⟩ := fields_lt hc
  obtain ⟨hmonth', hday', hhour', hminute', hsecond'⟩ := fields_lt hc'
  have two : 2 ≠ 0 := by decide
  obtain ⟨month, h⟩ := padded_append_inj two hmonth hmonth' (List.cons.inj h).2
  obtain ⟨day, h⟩ := padded_append_inj two hday hday' (List.cons.inj h).2
  obtain ⟨hour, h⟩ := padded_append_inj two hhour hhour' (List.cons.inj h).2
  obtain ⟨minute, h⟩ := padded_append_inj two hminute hminute' (List.cons.inj h).2
  obtain ⟨second, h⟩ := padded_append_inj two hsecond hsecond' (List.cons.inj h).2
  exact ⟨month, day, hour, minute, second, Decimal.padded_injective (List.cons.inj h).2⟩

end AfterYear

theorem milli_lt (t : Instant) : t.milli < 10 ^ 3 := by
  unfold Instant.milli nanosPerSecond
  omega

/-- The same date, time and milliseconds are those of one millisecond. -/
theorem determined_of_stamp {t t' : Instant}
    (h : stamp (some "YYYY-MM-DD HH:mm:ss.SSS") t' = stamp (some "YYYY-MM-DD HH:mm:ss.SSS") t) :
    t'.secs = t.secs ∧ ((t'.nanos : Int) - t.nanos).natAbs < 1000000 := by
  rw [stamp_milli, stamp_milli] at h
  have htext := String.ofList_inj.mp (Except.ok.inj h)
  have hlength : (afterYear t'.civil t'.milli).length = (afterYear t.civil t.milli).length := by
    rw [length_afterYear t'.valid_civil (milli_lt t'), length_afterYear t.valid_civil (milli_lt t)]
  obtain ⟨hyear, hrest⟩ := List.append_inj' htext hlength
  obtain ⟨month, day, hour, minute, second, milli⟩ :=
    afterYear_inj t'.valid_civil t.valid_civil hrest
  have year : t'.civil.date.year = t.civil.date.year := by
    have hread := congrArg Decimal.readSigned? hyear
    rw [DateToken.readSigned?_yearText, DateToken.readSigned?_yearText] at hread
    exact Option.some.inj hread
  have hcivil := Civil.ext (Date.ext year month day) hour minute second
  obtain ⟨hsecs, hnanos⟩ := Instant.secs_eq_of_civil_eq hcivil
  refine ⟨hsecs, ?_⟩
  unfold Instant.milli nanosPerSecond at *
  omega

/-! ## What is shown -/

theorem shows_epochMillis (t : Instant) :
    Shows t .epochMillis (1000 * t.secs + (t.nanos / 1000000 : Nat)) := by
  have hmillis : 1000 * t.secs + (t.nanos / 1000000 : Nat) = t.epochMillis := by
    unfold Instant.epochMillis
    omega
  rw [shows_iff, hmillis]
  exact Decimal.readSigned?_signed t.epochMillis

theorem shows_milli (t : Instant) : Shows t .milli3 (t.nanos / 1000000 % 1000 : Nat) := by
  have hmilli : t.nanos / 1000000 % 1000 = t.milli := by
    unfold Instant.milli nanosPerSecond
    omega
  rw [hmilli]
  exact shows_of_read (Decimal.read?_padded 3 t.milli)

/-- A leap second shows as a whole second within the nanoseconds. -/
theorem extra_eq (t : Instant) (n : Int) : extra t n = (t.nanos / nanosPerSecond : Nat) * n := by
  have hnanos := t.nanos_lt
  unfold extra
  by_cases hleap : t.isLeap = true
  · have hone : t.nanos / nanosPerSecond = 1 := by
      rw [Instant.isLeap_iff] at hleap
      unfold nanosPerSecond at *
      omega
    rw [if_pos hleap, hone]
    omega
  · have hzero : t.nanos / nanosPerSecond = 0 := by
      rw [Instant.isLeap_iff] at hleap
      unfold nanosPerSecond at *
      omega
    rw [if_neg hleap, hzero]
    omega

/-- The hour of the half and the half of the day tell the hour. -/
theorem half_of_hour (t : Instant) : ∃ h : Nat, Shows t .halfHour2 h ∧ 1 ≤ h ∧ h ≤ 12 ∧
    (stamp (some "A") t = .ok "AM" ∧ t.civil.hour = h % 12 ∨
      stamp (some "A") t = .ok "PM" ∧ t.civil.hour = h % 12 + 12) := by
  have hhour := t.valid_civil.hour
  have hhalf : 1 ≤ t.civil.hourOfHalf ∧ t.civil.hourOfHalf ≤ 12 ∧
      t.civil.hourOfHalf % 12 = t.civil.hour % 12 := by
    unfold Civil.hourOfHalf
    split_ifs <;> omega
  refine ⟨t.civil.hourOfHalf, shows_of_read (Decimal.read?_padded 2 _), hhalf.1, hhalf.2.1, ?_⟩
  have hstamp : stamp (some "A") t =
      .ok (String.ofList (if t.civil.hour < 12 then ['A', 'M'] else ['P', 'M'])) :=
    stamp_spelling .half t
  by_cases hmorning : t.civil.hour < 12
  · rw [if_pos hmorning] at hstamp
    exact Or.inl ⟨hstamp, by omega⟩
  · rw [if_neg hmorning] at hstamp
    exact Or.inr ⟨hstamp, by omega⟩

/-- All tokens of a timestamp show one reading of calendar and clock, which is that of its instant
and of no other outside its millisecond. -/
theorem exists_isShown (t : Instant) : ∃ c, IsShown t c := by
  refine ⟨t.civil, ?_⟩
  constructor
  case epochSeconds => exact shows_iff.mpr (Decimal.readSigned?_signed t.secs)
  case epochMillis => exact shows_epochMillis t
  case year => exact shows_iff.mpr (DateToken.readSigned?_yearText _)
  case month => exact shows_of_read (Decimal.read?_padded 2 _)
  case day => exact shows_of_read (Decimal.read?_padded 2 _)
  case hour => exact shows_of_read (Decimal.read?_padded 2 _)
  case minute => exact shows_of_read (Decimal.read?_padded 2 _)
  case second => exact shows_of_read (Decimal.read?_padded 2 _)
  case valid => exact t.valid_civil
  case second_eq_sixty_iff => exact t.second_eq_sixty_iff
  case isSecond =>
    rw [extra_eq, Int.mul_one]
    exact t.isSecond_civil
  case milli => exact shows_milli t
  case epochMillis_eq =>
    intro x s milli hx hs hmilli
    have hepoch : Shows t .epochSeconds t.secs := shows_iff.mpr (Decimal.readSigned?_signed t.secs)
    rw [hx.unique (shows_epochMillis t), hs.unique hepoch, hmilli.unique (shows_milli t), extra_eq]
    have hnanos := t.nanos_lt
    unfold nanosPerSecond at *
    omega
  case unpadded =>
    intro token token2 htoken
    obtain ⟨n, hn, hn2⟩ := unpadded_of_twoDigits? (t := t) htoken
    refine ⟨n, ?_, ?_, ?_, ?_⟩
    · exact shows_of_read (hn ▸ Decimal.read?_digits n)
    · exact shows_of_read (hn2 ▸ Decimal.read?_padded 2 n)
    · rw [stamp_spelling, hn]
    · rw [stamp_spelling, hn2]
  case yearOfCentury =>
    have hyear : ((t.civil.date.year % 100).toNat : Int) = t.civil.date.year % 100 := by omega
    rw [← hyear]
    exact shows_of_read (Decimal.read?_padded 2 _)
  case half => exact half_of_hour t
  case standard => exact stamp_standard t
  case determined => exact fun t' => determined_of_stamp

/-! ## Patterns of many pieces -/

namespace IsShown

variable {t : Instant} {c : Civil}

/-- Both tokens for a number show it. -/
theorem shows_of_twoDigits? (shown : IsShown t c) {token token2 : DateToken} {n : Int}
    (htoken : twoDigits? token = some token2) (h2 : Shows t token2 n) : Shows t token n := by
  obtain ⟨m, hm, hm2, -⟩ := shown.unpadded token token2 htoken
  exact hm2.unique h2 ▸ hm

/-- The hour of the half is that of the day. -/
theorem halfHour2 (shown : IsShown t c) :
    Shows t .halfHour2 ((c.hour + 11) % 12 + 1 : Nat) := by
  obtain ⟨h, hshows, hpos, hle, hhalf⟩ := shown.half
  have heq : (c.hour + 11) % 12 + 1 = h := by
    rcases hhalf with ⟨-, hhour⟩ | ⟨-, hhour⟩ <;> omega
  exact heq ▸ hshows

/-- Morning is the half before noon. -/
theorem stamp_half (shown : IsShown t c) :
    stamp (some "A") t = .ok (String.ofList (if c.hour < 12 then ['A', 'M'] else ['P', 'M'])) := by
  obtain ⟨h, -, -, -, ⟨hstamp, hhour⟩ | ⟨hstamp, hhour⟩⟩ := shown.half
  · rw [hstamp, if_pos (by omega)]
  · rw [hstamp, if_neg (by omega)]

/-- Every token says what the reading of the instant has for it. -/
theorem said_isWritten (shown : IsShown t c) (token : DateToken) :
    (said t c token).IsWritten (token.render t) := by
  cases token with
  | year => exact shows_iff.mp shown.year
  | yearOfCentury => exact shows_iff.mp shown.yearOfCentury
  | month2 => exact shows_iff.mp shown.month
  | month => exact shows_iff.mp (shown.shows_of_twoDigits? rfl shown.month)
  | day2 => exact shows_iff.mp shown.day
  | day => exact shows_iff.mp (shown.shows_of_twoDigits? rfl shown.day)
  | hour2 => exact shows_iff.mp shown.hour
  | hour => exact shows_iff.mp (shown.shows_of_twoDigits? rfl shown.hour)
  | halfHour2 => exact shows_iff.mp shown.halfHour2
  | halfHour => exact shows_iff.mp (shown.shows_of_twoDigits? rfl shown.halfHour2)
  | minute2 => exact shows_iff.mp shown.minute
  | minute => exact shows_iff.mp (shown.shows_of_twoDigits? rfl shown.minute)
  | second2 => exact shows_iff.mp shown.second
  | second => exact shows_iff.mp (shown.shows_of_twoDigits? rfl shown.second)
  | milli3 => exact shows_iff.mp shown.milli
  | half =>
    have hstamp := (stamp_spelling .half t).symm.trans shown.stamp_half
    exact String.ofList_inj.mp (Except.ok.inj hstamp)
  | offset => rfl
  | epochSeconds => exact shows_iff.mp shown.epochSeconds
  | epochMillis => exact shows_iff.mp shown.epochMillis

/-- Every piece is rendered as what it becomes. -/
theorem becomes_render (shown : IsShown t c) (piece : PatternPiece) :
    Becomes t c piece (piece.render t) := by
  cases piece with
  | bracketed text => rfl
  | field token => exact ⟨stamp_spelling token t, shown.said_isWritten token⟩
  | plain char => rfl

/-- Under any pattern a timestamp is what the pieces of the pattern become, one behind the other. -/
theorem format_eq (shown : IsShown t c) {text : String} {pieces : List PatternPiece}
    (reads : ReadsAs text.toList pieces) :
    ∃ texts, List.Forall₂ (Becomes t c) pieces texts ∧
      (Pattern.compile text).format t = String.ofList texts.flatten := by
  obtain ⟨pieces', reads', written⟩ := exists_pieces_of_itemsFrom [] text.toList
  obtain rfl := reads.unique reads'
  refine ⟨pieces'.map (PatternPiece.render t), ?_, ?_⟩
  · rw [List.forall₂_map_right_iff, List.forall₂_same]
    exact fun piece _ => shown.becomes_render piece
  · show String.ofList ((Pattern.itemsFrom [] text.toList).flatMap (PatternItem.render t)) = _
    rw [written t, List.nil_append, List.flatMap_def]

end IsShown

/-- A leap second before 1970, and a year with a sign. -/
example :
    let t : Instant := ⟨-1, 1999000000, by decide, by decide, by decide, by decide⟩
    let first : Instant := ⟨minSecs, 0, by decide, by decide, by decide, by decide⟩
    stamp (some "YYYY-MM-DD hh:mm:ss.SSS A X x") t = .ok "1969-12-31 11:59:60.999 PM -1 999" ∧
      stamp none first = .ok "-262143-01-01T00:00:00Z" := by
  decide +kernel

end Courier.Template
