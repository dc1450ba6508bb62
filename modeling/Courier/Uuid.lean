/-!
# Random identifiers

A UUID is a 128-bit number, written as 32 lowercase hexadecimal digits in groups of 8, 4, 4, 4 and
12. Random ones carry the version 4 and the variant bits `10`, which leaves 122 bits free. A supply
is a series of identifiers together with the number of them that were drawn.
-/

namespace Courier

/-- A 128-bit identifier. -/
structure Uuid where
  bits : BitVec 128
deriving DecidableEq, Repr

namespace Uuid

/-- The lowercase hexadecimal digit for a number below sixteen. -/
def hexDigit (n : Nat) : Char :=
  if n % 16 < 10 then Char.ofNat (48 + n % 16) else Char.ofNat (87 + n % 16)

/-- The last `count` hexadecimal digits of a number. -/
def hexDigits : Nat → Nat → List Char
  | 0, _ => []
  | count + 1, n => hexDigits count (n / 16) ++ [hexDigit n]

/-- The canonical form, `xxxxxxxx-xxxx-xxxx-xxxx-xxxxxxxxxxxx`. -/
def hyphenated (u : Uuid) : List Char :=
  let n := u.bits.toNat
  hexDigits 8 (n >>> 96) ++ '-' :: hexDigits 4 (n >>> 80) ++ '-' :: hexDigits 4 (n >>> 64) ++
    '-' :: hexDigits 4 (n >>> 48) ++ '-' :: hexDigits 12 n

/-- The random identifier with these free bits. -/
def ofRandom (free : BitVec 122) : Uuid :=
  ⟨free.extractLsb' 74 48 ++ 4#4 ++ free.extractLsb' 62 12 ++ 2#2 ++ free.extractLsb' 0 62⟩

end Uuid

/-- A series of identifiers and how many were drawn. -/
structure UuidSupply where
  /-- The identifier with this number, counted from zero. -/
  series : Nat → Uuid
  /-- How many identifiers were drawn. -/
  drawn : Nat := 0

namespace UuidSupply

/-- Draws the next identifier. -/
def draw (s : UuidSupply) : Uuid × UuidSupply :=
  (s.series s.drawn, { s with drawn := s.drawn + 1 })

/-- The supply after this many more identifiers. -/
def skip (s : UuidSupply) (n : Nat) : UuidSupply :=
  { s with drawn := s.drawn + n }

/-- The next identifiers, this many of them. -/
def upcoming (s : UuidSupply) (n : Nat) : List Uuid :=
  (List.range' s.drawn n).map s.series

/-- The identifiers from the next one up to the one with number `stop` are all different. Nothing is
said of any others: there are only finitely many identifiers, so no series is without repetition. -/
def FreshUpTo (s : UuidSupply) (stop : Nat) : Prop :=
  ∀ m n, s.drawn ≤ m → m < n → n < stop → s.series m ≠ s.series n

/-- Spreads a number over the free bits: it is multiplied by an odd number and the upper half is
added to the lower one bit by bit, so that different numbers stay different. -/
def scramble (n : BitVec 122) : BitVec 122 :=
  let mixed := n * 0x2545F4914F6CDD1D9E3779B97F4A7C5#122
  mixed ^^^ (mixed >>> 61)

/-- The supply that starts from a seed and repeats itself only after all free bits are used up. -/
def seeded (seed : Nat) : UuidSupply :=
  { series := fun n => Uuid.ofRandom (scramble (BitVec.ofNat 122 (seed + n))) }

@[simp] theorem draw_fst (s : UuidSupply) : s.draw.1 = s.series s.drawn := rfl

@[simp] theorem series_draw (s : UuidSupply) : s.draw.2.series = s.series := rfl

@[simp] theorem drawn_draw (s : UuidSupply) : s.draw.2.drawn = s.drawn + 1 := rfl

@[simp] theorem drawn_skip (s : UuidSupply) (n : Nat) : (s.skip n).drawn = s.drawn + n := rfl

theorem skip_skip (s : UuidSupply) (m n : Nat) : (s.skip m).skip n = s.skip (m + n) :=
  congrArg (UuidSupply.mk s.series) (Nat.add_assoc s.drawn m n)

@[simp] theorem length_upcoming (s : UuidSupply) (n : Nat) : (s.upcoming n).length = n := by
  rw [upcoming, List.length_map, List.length_range']

@[simp] theorem upcoming_zero (s : UuidSupply) : s.upcoming 0 = [] := rfl

/-- Identifiers can be drawn in two goes. -/
theorem upcoming_add (s : UuidSupply) (m n : Nat) :
    s.upcoming (m + n) = s.upcoming m ++ (s.skip m).upcoming n := by
  rw [upcoming, ← List.range'_append_1, List.map_append]
  rfl

end UuidSupply

end Courier
