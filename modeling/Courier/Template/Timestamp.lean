import Courier.Template.Directive
import Courier.Time.Reading

/-!
# What timestamps show

A timestamp whose format is a single token shows a number. These numbers are read from the texts
here, as the integers that they denote, and `IsShown` says how they belong together: they are one
reading of calendar and clock, at the second of the instant. A longer pattern shows one after the
other what its pieces show.
-/

namespace Courier.Template

/-- The text of a timestamp with this format. -/
def stamp (format : Option String) (t : Time.Instant) : Except FormatError String :=
  Directive.render .timestamp format (.timestamp t)

/-- A timestamp with this token for a format shows a number. -/
def Shows (t : Time.Instant) (token : Time.DateToken) (n : Int) : Prop :=
  ∃ text, stamp (some token.spelling) t = .ok text ∧ Decimal.readSigned? text.toList = some n

/-- The token for the same number with two digits. -/
def twoDigits? : Time.DateToken → Option Time.DateToken
  | .month => some .month2
  | .day => some .day2
  | .hour => some .hour2
  | .halfHour => some .halfHour2
  | .minute => some .minute2
  | .second => some .second2
  | _ => none

/-- What a leap second counts for. -/
def extra (t : Time.Instant) (n : Int) : Int :=
  if t.isLeap then n else 0

/-- The tokens show this reading of calendar and clock, and all belong to one instant. -/
structure IsShown (t : Time.Instant) (c : Time.Civil) : Prop where
  epochSeconds : Shows t .epochSeconds t.secs
  epochMillis : Shows t .epochMillis (1000 * t.secs + (t.nanos / 1000000 : Nat))
  year : Shows t .year c.date.year
  month : Shows t .month2 c.date.month
  day : Shows t .day2 c.date.day
  hour : Shows t .hour2 c.hour
  minute : Shows t .minute2 c.minute
  second : Shows t .second2 c.second
  valid : c.Valid
  second_eq_sixty_iff : c.second = 60 ↔ t.isLeap = true
  isSecond : c.IsSecond (t.secs + extra t 1)
  milli : Shows t .milli3 (t.nanos / 1000000 % 1000 : Nat)
  epochMillis_eq : ∀ x s milli, Shows t .epochMillis x → Shows t .epochSeconds s →
    Shows t .milli3 milli → x = 1000 * s + milli + extra t 1000
  /-- One token shows the number as it is, the other one puts a zero in front of a single digit. -/
  unpadded : ∀ token token2, twoDigits? token = some token2 → ∃ n : Nat,
    Shows t token n ∧ Shows t token2 n ∧
    stamp (some token.spelling) t = .ok (String.ofList (Decimal.digits n)) ∧
    stamp (some token2.spelling) t = .ok (String.ofList (Decimal.padded 2 n))
  yearOfCentury : Shows t .yearOfCentury (c.date.year % 100)
  /-- The hours of a half are counted from 12, as 0, to 11. -/
  half : ∃ h : Nat, Shows t .halfHour2 h ∧ 1 ≤ h ∧ h ≤ 12 ∧
    (stamp (some "A") t = .ok "AM" ∧ c.hour = h % 12 ∨
      stamp (some "A") t = .ok "PM" ∧ c.hour = h % 12 + 12)
  standard : stamp none t = stamp (some "YYYY-MM-DD[T]HH:mm:ss[Z]") t
  /-- Only instants of one millisecond have the same date, time and milliseconds. -/
  determined : ∀ t', stamp (some "YYYY-MM-DD HH:mm:ss.SSS") t' =
      stamp (some "YYYY-MM-DD HH:mm:ss.SSS") t →
    t'.secs = t.secs ∧ ((t'.nanos : Int) - t.nanos).natAbs < 1000000

/-! ## Patterns -/

/-- What is said at one place of a timestamp. -/
inductive Said where
  | number (n : Int)
  | word (text : List Char)

/-- What a token says of an instant that is read as `c`. -/
def said (t : Time.Instant) (c : Time.Civil) : Time.DateToken → Said
  | .year => .number c.date.year
  | .yearOfCentury => .number (c.date.year % 100)
  | .month2 | .month => .number c.date.month
  | .day2 | .day => .number c.date.day
  | .hour2 | .hour => .number c.hour
  -- One hour back, counted from 1 on: 12 comes before 1.
  | .halfHour2 | .halfHour => .number ((c.hour + 11) % 12 + 1 : Nat)
  | .minute2 | .minute => .number c.minute
  | .second2 | .second => .number c.second
  | .milli3 => .number (t.nanos / 1000000 % 1000 : Nat)
  | .half => .word (if c.hour < 12 then ['A', 'M'] else ['P', 'M'])
  | .offset => .word ['+', '0', '0', ':', '0', '0']
  | .epochSeconds => .number t.secs
  | .epochMillis => .number (1000 * t.secs + (t.nanos / 1000000 : Nat))

/-- This text says so: the integer can be read from it, or it is the word. -/
def Said.IsWritten (written : List Char) : Said → Prop
  | .number n => Decimal.readSigned? written = some n
  | .word text => written = text

/-- A piece of a pattern becomes this text: a token that of a timestamp with this token for a
format. -/
def Becomes (t : Time.Instant) (c : Time.Civil) : Time.PatternPiece → List Char → Prop
  | .bracketed text, written => written = text
  | .field token, written =>
    stamp (some token.spelling) t = .ok (String.ofList written) ∧ (said t c token).IsWritten written
  | .plain char, written => written = [char]

end Courier.Template
