import Courier.Uuid
import Mathlib.Algebra.Group.Nat.Defs

/-!
# The standard form of an identifier

An identifier is written as 32 lowercase hexadecimal digits in five groups. `read?` takes texts of
this form and no others, and reads the digits of all groups as one number. What is written is read
back as the same identifier, so that different identifiers are never written alike.
-/

namespace Courier.Uuid

/-! ## Hexadecimal digits -/

/-- A lowercase hexadecimal digit. -/
def isHexDigit (c : Char) : Bool :=
  ('0' ≤ c && c ≤ '9') || ('a' ≤ c && c ≤ 'f')

/-- The number that a lowercase hexadecimal digit stands for. -/
def hexValue (c : Char) : Nat :=
  if c ≤ '9' then c.toNat - 48 else c.toNat - 87

/-- The number that a row of hexadecimal digits denotes. -/
def ofHex (cs : List Char) : Nat :=
  cs.foldl (fun acc c => 16 * acc + hexValue c) 0

/-- There are sixteen digits. -/
theorem exists_hexDigit (n : Nat) : ∃ d : Fin 16, n % 16 = d ∧ hexDigit n = hexDigit d := by
  have hlt : n % 16 < 16 := Nat.mod_lt n (by decide)
  refine ⟨⟨n % 16, hlt⟩, rfl, ?_⟩
  rw [hexDigit, hexDigit, Nat.mod_mod]

theorem isHexDigit_hexDigit (n : Nat) : isHexDigit (hexDigit n) = true := by
  have hall : ∀ d : Fin 16, isHexDigit (hexDigit d) = true := by decide
  obtain ⟨d, -, hdigit⟩ := exists_hexDigit n
  rw [hdigit]
  exact hall d

theorem hexValue_hexDigit (n : Nat) : hexValue (hexDigit n) = n % 16 := by
  have hall : ∀ d : Fin 16, hexValue (hexDigit d) = d := by decide
  obtain ⟨d, hvalue, hdigit⟩ := exists_hexDigit n
  rw [hdigit, hvalue]
  exact hall d

@[simp] theorem length_hexDigits (count n : Nat) : (hexDigits count n).length = count := by
  induction count generalizing n with
  | zero => rfl
  | succ count ih => rw [hexDigits, List.length_append, ih, List.length_singleton]

theorem isHexDigit_of_mem_hexDigits {count n : Nat} {c : Char} (hc : c ∈ hexDigits count n) :
    isHexDigit c = true := by
  induction count generalizing n with
  | zero => exact absurd hc List.not_mem_nil
  | succ count ih =>
    rcases List.mem_append.mp hc with hfront | hlast
    · exact ih hfront
    · rw [List.mem_singleton.mp hlast]
      exact isHexDigit_hexDigit n

/-- As many digits as asked for denote the number as far as they reach. -/
theorem ofHex_hexDigits (count n : Nat) : ofHex (hexDigits count n) = n % 16 ^ count := by
  induction count generalizing n with
  | zero => rw [Nat.pow_zero, Nat.mod_one]; rfl
  | succ count ih =>
    have hlast : ofHex (hexDigits (count + 1) n) =
        16 * ofHex (hexDigits count (n / 16)) + hexValue (hexDigit n) := by
      simp [ofHex, hexDigits]
    rw [hlast, ih, hexValue_hexDigit, Nat.pow_succ', Nat.mod_mul]
    omega

/-- A row of digits can be split where one likes. -/
theorem hexDigits_add (m k n : Nat) :
    hexDigits (m + k) n = hexDigits m (n / 16 ^ k) ++ hexDigits k n := by
  induction k generalizing n with
  | zero => simp [hexDigits]
  | succ k ih =>
    have hdiv : n / 16 / 16 ^ k = n / 16 ^ (k + 1) := by rw [Nat.div_div_eq_div_mul, Nat.pow_succ']
    rw [← Nat.add_assoc, hexDigits, ih, hdiv, hexDigits, List.append_assoc]

/-! ## Groups of digits -/

/-- The digits of an identifier in groups. -/
def groups (u : Uuid) : List (List Char) :=
  let n := u.bits.toNat
  [hexDigits 8 (n >>> 96), hexDigits 4 (n >>> 80), hexDigits 4 (n >>> 64), hexDigits 4 (n >>> 48),
    hexDigits 12 n]

theorem isHexDigit_of_mem_groups {u : Uuid} {group : List Char} (hgroup : group ∈ u.groups)
    {c : Char} (hc : c ∈ group) : isHexDigit c = true := by
  have hdigits : ∃ count n, group = hexDigits count n := by
    simp only [groups, List.mem_cons, List.not_mem_nil, or_false] at hgroup
    rcases hgroup with rfl | rfl | rfl | rfl | rfl
    all_goals exact ⟨_, _, rfl⟩
  obtain ⟨count, n, rfl⟩ := hdigits
  exact isHexDigit_of_mem_hexDigits hc

theorem shiftRight_eq_div (k n : Nat) : n >>> (4 * k) = n / 16 ^ k := by
  have hsixteen : 2 ^ 4 = 16 := rfl
  rw [Nat.shiftRight_eq_div_pow, Nat.pow_mul, hsixteen]

/-- Without their hyphens the groups are all digits of the number. -/
theorem flatten_groups (u : Uuid) : u.groups.flatten = hexDigits 32 u.bits.toNat := by
  have hsplit : ∀ n, hexDigits 32 n = hexDigits 8 (n >>> 96) ++ (hexDigits 4 (n >>> 80) ++
      (hexDigits 4 (n >>> 64) ++ (hexDigits 4 (n >>> 48) ++ hexDigits 12 n))) := by
    intro n
    have h96 : n >>> 96 = n / 16 ^ 24 := shiftRight_eq_div 24 n
    have h80 : n >>> 80 = n / 16 ^ 20 := shiftRight_eq_div 20 n
    have h64 : n >>> 64 = n / 16 ^ 16 := shiftRight_eq_div 16 n
    have h48 : n >>> 48 = n / 16 ^ 12 := shiftRight_eq_div 12 n
    rw [h96, h80, h64, h48, ← hexDigits_add 4 12, ← hexDigits_add 4 16, ← hexDigits_add 4 20,
      ← hexDigits_add 8 24]
  rw [hsplit]
  simp only [groups, List.flatten_cons, List.flatten_nil, List.append_nil]

/-- The groups are what stands between the hyphens. -/
theorem splitOn_hyphenated (u : Uuid) : u.hyphenated.splitOn '-' = u.groups := by
  have hjoin : u.hyphenated = ['-'].intercalate u.groups := by
    simp [hyphenated, groups, List.intercalate]
  have hfree : ∀ group ∈ u.groups, '-' ∉ group := by
    intro group hgroup hc
    have hdigit := isHexDigit_of_mem_groups hgroup hc
    contradiction
  rw [hjoin]
  exact List.splitOn_intercalate '-' hfree (List.cons_ne_nil _ _)

/-! ## Reading an identifier -/

/-- Groups of 8, 4, 4, 4 and 12 lowercase hexadecimal digits with a hyphen between each two. -/
def IsCanonical (cs : List Char) : Prop :=
  (cs.splitOn '-').map List.length = [8, 4, 4, 4, 12] ∧
    ∀ group ∈ cs.splitOn '-', ∀ c ∈ group, isHexDigit c = true

instance (cs : List Char) : Decidable (IsCanonical cs) :=
  inferInstanceAs (Decidable (_ ∧ _))

/-- The identifier that a text of this form stands for. -/
def read? (cs : List Char) : Option Uuid :=
  if IsCanonical cs then some ⟨.ofNat 128 (ofHex (cs.splitOn '-').flatten)⟩ else none

theorem isCanonical_hyphenated (u : Uuid) : IsCanonical u.hyphenated := by
  rw [IsCanonical, splitOn_hyphenated]
  constructor
  · simp [groups]
  · intro group hgroup c hc
    exact isHexDigit_of_mem_groups hgroup hc

theorem length_hyphenated (u : Uuid) : u.hyphenated.length = 36 := by
  simp [hyphenated]

/-- What is written is read back. -/
theorem read?_hyphenated (u : Uuid) : read? u.hyphenated = some u := by
  have hlt : u.bits.toNat < 16 ^ 32 := u.bits.isLt
  rw [read?, if_pos (isCanonical_hyphenated u), splitOn_hyphenated, flatten_groups, ofHex_hexDigits,
    Nat.mod_eq_of_lt hlt, BitVec.ofNat_toNat, BitVec.setWidth_eq]

/-- Different identifiers are written differently. -/
theorem hyphenated_injective {u v : Uuid} (h : u.hyphenated = v.hyphenated) : u = v := by
  have hread : some u = some v := by rw [← read?_hyphenated u, ← read?_hyphenated v, h]
  exact Option.some.inj hread

end Courier.Uuid
