import Courier.Text.Decimal
import Courier.Time.Calendar

/-!
# Date patterns

A date pattern such as `YYYY-MM-DD HH:mm:ss` is read from left to right. Text between brackets
stands for itself, then the longest token that starts here stands for its field of the instant, and
every other character stands for itself.
-/

namespace Courier.Time

/-- The fields an instant can be asked for. -/
inductive DateToken where
  | year
  | yearOfCentury
  | month2
  | month
  | day2
  | day
  | hour2
  | hour
  | halfHour2
  | halfHour
  | minute2
  | minute
  | second2
  | second
  | milli3
  | half
  | offset
  | epochSeconds
  | epochMillis
deriving DecidableEq, Repr

namespace DateToken

/-- How a field is written in a pattern. -/
def spelling : DateToken → String
  | .year => "YYYY"
  | .yearOfCentury => "YY"
  | .month2 => "MM"
  | .month => "M"
  | .day2 => "DD"
  | .day => "D"
  | .hour2 => "HH"
  | .hour => "H"
  | .halfHour2 => "hh"
  | .halfHour => "h"
  | .minute2 => "mm"
  | .minute => "m"
  | .second2 => "ss"
  | .second => "s"
  | .milli3 => "SSS"
  | .half => "A"
  | .offset => "Z"
  | .epochSeconds => "X"
  | .epochMillis => "x"

/-- All tokens, longer spellings before shorter ones. -/
def all : List DateToken :=
  [.year, .milli3, .yearOfCentury, .month2, .day2, .hour2, .halfHour2, .minute2, .second2,
   .month, .day, .hour, .halfHour, .minute, .second, .half, .offset, .epochSeconds, .epochMillis]

/-- Four digits for the years 0 to 9999; a sign and at least four digits for all others. -/
def yearText (year : Int) : List Char :=
  if 0 ≤ year ∧ year ≤ 9999 then Decimal.padded 4 year.toNat
  else (if year < 0 then '-' else '+') :: Decimal.padded 4 year.natAbs

/-- The text of a field at an instant. -/
def render (t : Instant) (token : DateToken) : List Char :=
  let c := t.civil
  match token with
  | .year => yearText c.date.year
  | .yearOfCentury => Decimal.padded 2 (c.date.year % 100).toNat
  | .month2 => Decimal.padded 2 c.date.month
  | .month => Decimal.digits c.date.month
  | .day2 => Decimal.padded 2 c.date.day
  | .day => Decimal.digits c.date.day
  | .hour2 => Decimal.padded 2 c.hour
  | .hour => Decimal.digits c.hour
  | .halfHour2 => Decimal.padded 2 c.hourOfHalf
  | .halfHour => Decimal.digits c.hourOfHalf
  | .minute2 => Decimal.padded 2 c.minute
  | .minute => Decimal.digits c.minute
  | .second2 => Decimal.padded 2 c.second
  | .second => Decimal.digits c.second
  | .milli3 => Decimal.padded 3 t.milli
  | .half => if c.hour < 12 then ['A', 'M'] else ['P', 'M']
  | .offset => "+00:00".toList
  | .epochSeconds => Decimal.signed t.secs
  | .epochMillis => Decimal.signed t.epochMillis

/-- The longest token at the front, and what follows it. -/
def match? (cs : List Char) : Option (DateToken × List Char) :=
  all.findSome? fun token =>
    if token.spelling.toList.isPrefixOf cs then some (token, cs.drop token.spelling.length)
    else none

end DateToken

/-- A part of a pattern. -/
inductive PatternItem where
  | verbatim (text : List Char)
  | field (token : DateToken)
deriving DecidableEq, Repr

/-- The text of a part at an instant. -/
def PatternItem.render (t : Instant) : PatternItem → List Char
  | .verbatim text => text
  | .field token => token.render t

/-- A compiled date pattern. -/
structure Pattern where
  items : List PatternItem
deriving DecidableEq, Repr

namespace Pattern

/-- Text between brackets at the front, and what follows the nearest closing bracket. -/
def bracketed? : List Char → Option (List Char × List Char)
  | '[' :: rest =>
    match rest.dropWhile (· != ']') with
    | _ :: after => some (rest.takeWhile (· != ']'), after)
    | [] => none
  | _ => none

theorem length_lt_of_bracketed? {cs text after : List Char}
    (h : bracketed? cs = some (text, after)) : after.length < cs.length := by
  unfold bracketed? at h
  split at h
  · rename_i rest
    split at h
    · rename_i hd
      have := (List.dropWhile_sublist (l := rest) (· != ']')).length_le
      rw [hd] at this
      cases h
      simp only [List.length_cons] at this ⊢
      omega
    · cases h
  · cases h

theorem length_lt_of_match? {cs after : List Char} {token : DateToken}
    (h : DateToken.match? cs = some (token, after)) : after.length < cs.length := by
  obtain ⟨t, -, ht⟩ := List.exists_of_findSome?_eq_some h
  split at ht
  · rename_i hp
    cases ht
    have hle := (List.isPrefixOf_iff_prefix.mp hp).length_le
    have hpos : 0 < token.spelling.length := by cases token <;> decide
    rw [String.length_toList] at hle
    simp only [List.length_drop]
    omega
  · cases ht

/-- Parts with a verbatim text in front of them; an empty text is no part. -/
def withText (text : List Char) (items : List PatternItem) : List PatternItem :=
  if text.isEmpty then items else .verbatim text :: items

/-- The parts of a pattern from left to right. `pending` is the verbatim text since the last
field: it becomes one part when the next field or the end comes. -/
def itemsFrom (pending cs : List Char) : List PatternItem :=
  match hc : cs with
  | [] => withText pending []
  | c :: rest =>
    match hb : bracketed? cs with
    | some (text, after) =>
      have : after.length < rest.length + 1 := by
        simpa [hc] using length_lt_of_bracketed? hb
      itemsFrom (pending ++ text) after
    | none =>
      match hm : DateToken.match? cs with
      | some (token, after) =>
        have : after.length < rest.length + 1 := by
          simpa [hc] using length_lt_of_match? hm
        withText pending (.field token :: itemsFrom [] after)
      | none => itemsFrom (pending ++ [c]) rest
termination_by cs.length

/-- Compiles the text of a pattern. -/
def compile (text : String) : Pattern :=
  ⟨itemsFrom [] text.toList⟩

/-- The text of an instant under a pattern. -/
def format (p : Pattern) (t : Instant) : String :=
  String.ofList (p.items.flatMap (·.render t))

end Pattern

/-- An instant in the form `2024-05-01T08:00:00Z`, without a fraction of the second. -/
def Instant.standardText (t : Instant) : String :=
  let c := t.civil
  String.ofList <|
    DateToken.yearText c.date.year ++ '-' :: Decimal.padded 2 c.date.month ++
      '-' :: Decimal.padded 2 c.date.day ++ 'T' :: Decimal.padded 2 c.hour ++
      ':' :: Decimal.padded 2 c.minute ++ ':' :: Decimal.padded 2 c.second ++ ['Z']

end Courier.Time
