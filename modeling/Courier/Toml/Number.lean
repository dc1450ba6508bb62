import Courier.Text.Decimal
import Courier.Time.Calendar
import Courier.Toml.Node

/-!
# TOML numbers and dates

Integers of 64 bits in four bases, floats, and dates and times of day. Underscores may stand between
two digits. Of a float only its being one is kept, and that it does not exceed the largest double.
-/

namespace Courier.Toml

/-- A digit of a base up to sixteen. -/
def isDigitOf (base : Nat) (c : Char) : Bool :=
  Decimal.isDigit c && c.toNat - 48 < base
    || base == 16 && ('a' ≤ c && c ≤ 'f' || 'A' ≤ c && c ≤ 'F')

/-- The value of a digit of any base. -/
def digitOf (c : Char) : Nat :=
  if Decimal.isDigit c then c.toNat - 48 else if 'a' ≤ c then c.toNat - 87 else c.toNat - 55

/-- Reads digits with single underscores between them, the nearest first in `before`. -/
def digitsRest (base : Nat) (before : List Char) : List Char → List Char × List Char
  | '_' :: c :: rest =>
    if isDigitOf base c then digitsRest base (c :: before) rest
    else (before.reverse, '_' :: c :: rest)
  | c :: rest =>
    if isDigitOf base c then digitsRest base (c :: before) rest else (before.reverse, c :: rest)
  | [] => (before.reverse, [])

/-- Reads at least one digit, with single underscores between digits. -/
def digits? (base : Nat) (cs : List Char) : Option (List Char × List Char) :=
  match cs with
  | c :: rest => if isDigitOf base c then some (digitsRest base [c] rest) else none
  | [] => none

/-- The number that digits of a base denote. -/
def valueOf (base : Nat) (ds : List Char) : Nat :=
  ds.foldl (fun n c => base * n + digitOf c) 0

/-- An integer of 64 bits. -/
def int64? (n : Int) : Option Node :=
  if -9223372036854775808 ≤ n ∧ n ≤ 9223372036854775807 then some (.integer n) else none

/-- Splits a sign off the front. -/
def sign (cs : List Char) : Bool × List Char :=
  match cs with
  | '+' :: rest => (false, rest)
  | '-' :: rest => (true, rest)
  | _ => (false, cs)

/-- Reads decimal digits that do not start with a zero unless it is the only one. -/
def wholePart? (cs : List Char) : Option (List Char × List Char) :=
  match cs with
  | '0' :: rest => some (['0'], rest)
  | _ => digits? 10 cs

/-- Reads an integer. -/
def integer? (cs : List Char) : Option (Node × List Char) :=
  let inBase (base : Nat) (rest : List Char) : Option (Node × List Char) := do
    let (ds, rest) ← digits? base rest
    return (← int64? (valueOf base ds), rest)
  match cs with
  | '0' :: 'x' :: rest => inBase 16 rest
  | '0' :: 'o' :: rest => inBase 8 rest
  | '0' :: 'b' :: rest => inBase 2 rest
  | _ => do
    let (negative, body) := sign cs
    let (ds, rest) ← wholePart? body
    let n : Int := valueOf 10 ds
    return (← int64? (if negative then -n else n), rest)

/-! ## Floats -/

/-- The decimal number `mantissa * 10 ^ exponent` is rounded to a double beyond the largest. -/
def overflows (mantissa : Nat) (exponent : Int) : Bool :=
  let size : Int := (Decimal.digits mantissa).length + exponent
  if mantissa = 0 || size < 300 then false
  else if 400 < size then true
  else
    -- Half a step above the largest double, from where on numbers are rounded up.
    let bound := 1 <<< 1024 - 1 <<< 970
    if 0 ≤ exponent then bound ≤ mantissa * Nat.pow 10 exponent.toNat
    else bound * Nat.pow 10 (-exponent).toNat ≤ mantissa

/-- Reads an exponent, if there is one. -/
def exponent? (cs : List Char) : Option (Int × List Char) :=
  match cs with
  | c :: rest =>
    if c == 'e' || c == 'E' then do
      let (negative, body) := sign rest
      let (ds, rest) ← digits? 10 body
      let n : Int := valueOf 10 ds
      return (if negative then -n else n, rest)
    else none
  | [] => none

/-- Reads a float in digits, with a point or an exponent or both. Only positive floats can be too
large. -/
def digitFloat? (cs : List Char) : Option (Node × List Char) := do
  let (negative, body) := sign cs
  let (whole, rest) ← wholePart? body
  let (fraction, exponent, rest) ← match rest with
    | '.' :: rest => do
      let (fraction, rest) ← digits? 10 rest
      match rest with
      | c :: _ =>
        if c == 'e' || c == 'E' then do
          let (exponent, rest) ← exponent? rest
          pure (fraction, exponent, rest)
        else pure (fraction, 0, rest)
      | [] => pure (fraction, 0, rest)
    | _ => do
      let (exponent, rest) ← exponent? rest
      pure ([], exponent, rest)
  if !negative && overflows (valueOf 10 (whole ++ fraction)) (exponent - fraction.length) then none
  else return (.float, rest)

/-- Reads one of the floats that have a name. -/
def namedFloat? (cs : List Char) : Option (Node × List Char) :=
  match (sign cs).2 with
  | 'i' :: 'n' :: 'f' :: rest => some (.float, rest)
  | 'n' :: 'a' :: 'n' :: rest => some (.float, rest)
  | _ => none

/-! ## Dates and times -/

/-- Reads two digits that denote a number of a range. -/
def twoDigits? (low high : Nat) : List Char → Option (Nat × List Char)
  | a :: b :: rest =>
    let n := Decimal.ofDigits [a, b]
    if Decimal.isDigit a && Decimal.isDigit b && low ≤ n && n ≤ high then some (n, rest) else none
  | _ => none

/-- Reads one given character. -/
def only? (c : Char) : List Char → Option (List Char)
  | d :: rest => if d == c then some rest else none
  | [] => none

/-- Reads a date that the calendar has, and gives its standard form. -/
def date? (cs : List Char) : Option (List Char × List Char) := do
  let year := cs.take 4
  if year.length = 4 && year.all Decimal.isDigit then
    let rest ← only? '-' (cs.drop 4)
    let (month, rest) ← twoDigits? 1 12 rest
    let rest ← only? '-' rest
    let (day, rest) ← twoDigits? 1 (Time.Date.daysInMonth (Decimal.ofDigits year) month) rest
    return (year ++ '-' :: Decimal.padded 2 month ++ '-' :: Decimal.padded 2 day, rest)
  else none

/-- Reads a fraction of a second, if there is one. It is cut after nine digits and loses its last
zeros. -/
def fraction? (cs : List Char) : Option (List Char × List Char) :=
  match cs with
  | '.' :: rest =>
    let ds := rest.takeWhile Decimal.isDigit
    let kept := ((ds.take 9).reverse.dropWhile (· == '0')).reverse
    if ds.isEmpty then none
    else some (if kept.isEmpty then [] else '.' :: kept, rest.drop ds.length)
  | _ => some ([], cs)

/-- Reads a time of day, and gives its standard form. -/
def time? (cs : List Char) : Option (List Char × List Char) := do
  let (hour, rest) ← twoDigits? 0 23 cs
  let rest ← only? ':' rest
  let (minute, rest) ← twoDigits? 0 59 rest
  let rest ← only? ':' rest
  let (second, rest) ← twoDigits? 0 60 rest
  let (fraction, rest) ← fraction? rest
  let whole := Decimal.padded 2 hour ++ ':' :: Decimal.padded 2 minute ++ ':' ::
    Decimal.padded 2 second
  return (whole ++ fraction, rest)

/-- Reads an offset from UTC, if there is one, and gives its standard form. -/
def offset? (cs : List Char) : Option (List Char × List Char) :=
  match cs with
  | c :: rest =>
    if c == 'Z' || c == 'z' then some (['Z'], rest)
    else if c == '+' || c == '-' then do
      let (hour, rest) ← twoDigits? 0 23 rest
      let rest ← only? ':' rest
      let (minute, rest) ← twoDigits? 0 59 rest
      -- An offset of nothing has a plus sign.
      let sign := if c == '-' && 0 < hour + minute then '-' else '+'
      return (sign :: Decimal.padded 2 hour ++ ':' :: Decimal.padded 2 minute, rest)
    else some ([], cs)
  | [] => some ([], [])

/-- Reads the time of day after a date, if there is one. A blank that no time follows is left. -/
def timeAfterDate? (cs : List Char) : Option (List Char × List Char) :=
  match cs with
  | c :: rest =>
    if c == 'T' || c == 't' || (c == ' ' && startsTime rest) then do
      let (time, rest) ← time? rest
      let (offset, rest) ← offset? rest
      return ('T' :: time ++ offset, rest)
    else some ([], cs)
  | [] => some ([], [])
where
  /-- Two digits and a colon. -/
  startsTime : List Char → Bool
    | a :: b :: ':' :: _ => Decimal.isDigit a && Decimal.isDigit b
    | _ => false

/-- Reads a date, a date with a time, or a time. -/
def dateTime? (cs : List Char) : Option (Node × List Char) :=
  match date? cs with
  | some (date, rest) => do
    let (time, rest) ← timeAfterDate? rest
    return (.dateTime (String.ofList (date ++ time)), rest)
  | none => do
    let (time, rest) ← time? cs
    return (.dateTime (String.ofList time), rest)

/-- Reads a number or a date. -/
def number? (cs : List Char) : Option (Node × List Char) :=
  -- Dates come first, since the digits of a year would do for an integer.
  match dateTime? cs with
  | some r => some r
  | none =>
    match digitFloat? cs with
    | some r => some r
    | none =>
      match namedFloat? cs with
      | some r => some r
      | none => integer? cs

end Courier.Toml
