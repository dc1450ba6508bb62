import Courier.Proofs.Text.Ascii
import Courier.Text.Decimal
import Mathlib.Algebra.Group.Nat.Defs
import Mathlib.Data.List.Induction
import Mathlib.Data.Nat.Log

/-!
# Numerals in order

How long a numeral is, and how numerals of one length compare: from the left, digit by digit, as
their bytes do in UTF-8.
-/

namespace Courier.Decimal

/-- One digit, and one more for each time the number can be divided by ten. -/
theorem length_digits (n : Nat) : (digits n).length = Nat.log 10 n + 1 := by
  fun_induction digits n with
  | case1 n h => rw [Nat.log_of_lt h, List.length_singleton]
  | case2 n h ih =>
    rw [List.length_append, ih, List.length_singleton,
      Nat.log_of_one_lt_of_le (by decide) (Nat.le_of_not_lt h)]

/-- A number below a power of ten has room in as many digits. -/
theorem length_padded_of_lt {n width : Nat} (hwidth : width ≠ 0) (h : n < 10 ^ width) :
    (padded width n).length = width := by
  have hlog : Nat.log 10 n < width := Nat.log_lt_of_lt_pow' hwidth h
  rw [length_padded, length_digits]
  omega

/-- Digits go on where those before them end. -/
theorem foldl_eq_add (cs : List Char) (acc : Nat) :
    cs.foldl (fun acc c => 10 * acc + digitValue c) acc = acc * 10 ^ cs.length + ofDigits cs := by
  induction cs using List.reverseRecOn with
  | nil => exact (Nat.mul_one acc).symm
  | append_singleton cs c ih =>
    rw [List.foldl_append, ih, ofDigits_append_single, List.length_append, List.length_singleton,
      Nat.pow_succ, ← Nat.mul_assoc]
    show 10 * (acc * 10 ^ cs.length + ofDigits cs) + digitValue c = _
    omega

/-- The first digit of a row counts as many powers of ten as digits follow it. -/
theorem ofDigits_cons (c : Char) (cs : List Char) :
    ofDigits (c :: cs) = digitValue c * 10 ^ cs.length + ofDigits cs := by
  rw [ofDigits, List.foldl_cons, foldl_eq_add, Nat.mul_zero, Nat.zero_add]

theorem ofDigits_lt {cs : List Char} (h : ∀ c ∈ cs, isDigit c = true) :
    ofDigits cs < 10 ^ cs.length := by
  induction cs with
  | nil => exact Nat.one_pos
  | cons c cs ih =>
    obtain ⟨hc, hcs⟩ := List.forall_mem_cons.mp h
    have hfirst : (digitValue c + 1) * 10 ^ cs.length ≤ 10 * 10 ^ cs.length :=
      Nat.mul_le_mul_right _ (digitValue_lt hc)
    have hrest := ih hcs
    rw [ofDigits_cons, List.length_cons, Nat.pow_succ]
    rw [Nat.add_mul] at hfirst
    omega

/-! ## Bytes -/

theorem isAscii_of_isDigit {c : Char} (h : isDigit c = true) : Text.IsAscii c :=
  Nat.lt_of_le_of_lt (toNat_of_isDigit h).2 (by decide)

theorem lt_of_digitValue_lt {c d : Char} (hc : isDigit c = true) (hd : isDigit d = true)
    (h : digitValue c < digitValue d) : c < d := by
  have hcrange := toNat_of_isDigit hc
  have hdrange := toNat_of_isDigit hd
  unfold digitValue at h
  rw [Char.lt_def, UInt32.lt_iff_toNat_lt]
  unfold Char.toNat at *
  omega

theorem eq_of_digitValue_eq {c d : Char} (hc : isDigit c = true) (hd : isDigit d = true)
    (h : digitValue c = digitValue d) : c = d := by
  rw [← digitChar_digitValue hc, h, digitChar_digitValue hd]

/-- Of two rows of as many digits, the one that denotes less comes first in the alphabet. -/
theorem lt_of_ofDigits_lt {cs ds : List Char} (hcs : ∀ c ∈ cs, isDigit c = true)
    (hds : ∀ d ∈ ds, isDigit d = true) (hlength : cs.length = ds.length)
    (h : ofDigits cs < ofDigits ds) : cs < ds := by
  induction cs generalizing ds with
  | nil =>
    have hnil : ds = [] := List.length_eq_zero_iff.mp hlength.symm
    rw [hnil] at h
    exact absurd h (Nat.lt_irrefl _)
  | cons c cs ih =>
    cases ds with
    | nil => cases hlength
    | cons d ds =>
      obtain ⟨hc, hcs'⟩ := List.forall_mem_cons.mp hcs
      obtain ⟨hd, hds'⟩ := List.forall_mem_cons.mp hds
      have hlength' : cs.length = ds.length := Nat.succ.inj hlength
      have hrest := ofDigits_lt hds'
      rw [ofDigits_cons, ofDigits_cons, hlength'] at h
      rw [List.cons_lt_cons_iff]
      obtain hlt | heq | hgt := Nat.lt_trichotomy (digitValue c) (digitValue d)
      · exact Or.inl (lt_of_digitValue_lt hc hd hlt)
      · obtain rfl := eq_of_digitValue_eq hc hd heq
        exact Or.inr ⟨rfl, ih hcs' hds' hlength' (Nat.lt_of_add_lt_add_left h)⟩
      · -- The number with the greater first digit would be the greater one.
        have hfirst : (digitValue d + 1) * 10 ^ ds.length ≤ digitValue c * 10 ^ ds.length :=
          Nat.mul_le_mul_right _ hgt
        rw [Nat.add_mul] at hfirst
        omega

/-- Its bytes come first too. -/
theorem flatMap_lt_of_ofDigits_lt {cs ds : List Char} (hcs : ∀ c ∈ cs, isDigit c = true)
    (hds : ∀ d ∈ ds, isDigit d = true) (hlength : cs.length = ds.length)
    (h : ofDigits cs < ofDigits ds) :
    cs.flatMap String.utf8EncodeChar < ds.flatMap String.utf8EncodeChar :=
  Text.flatMap_utf8EncodeChar_lt (fun c hc => isAscii_of_isDigit (hcs c hc))
    (fun d hd => isAscii_of_isDigit (hds d hd)) (lt_of_ofDigits_lt hcs hds hlength h)

end Courier.Decimal
