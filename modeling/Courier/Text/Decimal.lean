/-!
# Decimal numerals

The decimal digits of a natural number, padding with zeros in front, signed forms, and reading
digits back, also within bounds. `ofDigits_digits` says that the digits denote the number they were
made from.
-/

namespace Courier.Decimal

/-- The ASCII digit for a number below ten. -/
def digitChar (n : Nat) : Char :=
  Char.ofNat (48 + n % 10)

/-- An ASCII decimal digit. -/
def isDigit (c : Char) : Bool :=
  '0' ≤ c && c ≤ '9'

/-- The number an ASCII digit stands for. -/
def digitValue (c : Char) : Nat :=
  c.toNat - 48

/-- The decimal digits, most significant first, without leading zeros; zero is one digit. -/
def digits (n : Nat) : List Char :=
  if n < 10 then [digitChar n] else digits (n / 10) ++ [digitChar n]
termination_by n

/-- At least `width` digits, filled up with zeros in front and never cut. -/
def padded (width n : Nat) : List Char :=
  List.replicate (width - (digits n).length) '0' ++ digits n

/-- The digits of an integer after a minus sign if it is negative. -/
def signed (n : Int) : List Char :=
  match n with
  | .ofNat m => digits m
  | .negSucc m => '-' :: digits (m + 1)

/-- The number that a row of digits denotes; other characters have no say in what it means. -/
def ofDigits (cs : List Char) : Nat :=
  cs.foldl (fun acc c => 10 * acc + digitValue c) 0

/-- Reads one or more ASCII digits and nothing else. -/
def read? (cs : List Char) : Option Nat :=
  if cs ≠ [] ∧ cs.all isDigit then some (ofDigits cs) else none

/-- Reads one or more ASCII digits after an optional plus sign, up to the number `bound`. -/
def readUpTo? (bound : Nat) (cs : List Char) : Option Nat :=
  let body := match cs with
    | '+' :: rest => rest
    | _ => cs
  (read? body).filter (· ≤ bound)

/-- Reads one or more ASCII digits after an optional sign. -/
def readSigned? (cs : List Char) : Option Int :=
  match cs with
  | '-' :: rest => (read? rest).map fun n : Nat => -(n : Int)
  | '+' :: rest => (read? rest).map Int.ofNat
  | _ => (read? cs).map Int.ofNat

/-- Reads digits one after the other into a machine word of 64 bits, unless the number outgrows
it. -/
def readWord? (cs : List Char) : Option Nat :=
  cs.foldlM (fun acc c =>
    if 10 * acc + digitValue c < UInt64.size then some (10 * acc + digitValue c) else none) 0

/-! ## Laws -/

theorem digitValue_digitChar (n : Nat) : digitValue (digitChar n) = n % 10 := by
  have h : n % 10 < 10 := Nat.mod_lt _ (by decide)
  unfold digitValue digitChar
  generalize n % 10 = d at h
  have : ∀ d : Fin 10, (Char.ofNat (48 + d.val)).toNat - 48 = d.val := by decide
  exact this ⟨d, h⟩

theorem isDigit_digitChar (n : Nat) : isDigit (digitChar n) = true := by
  have h : n % 10 < 10 := Nat.mod_lt _ (by decide)
  unfold digitChar
  generalize n % 10 = d at h
  have : ∀ d : Fin 10, isDigit (Char.ofNat (48 + d.val)) = true := by decide
  exact this ⟨d, h⟩

theorem toNat_of_isDigit {c : Char} (h : isDigit c = true) : 48 ≤ c.toNat ∧ c.toNat ≤ 57 := by
  simpa [isDigit, Char.le_def, UInt32.le_iff_toNat_le] using h

theorem digitValue_lt {c : Char} (h : isDigit c = true) : digitValue c < 10 := by
  have := toNat_of_isDigit h
  unfold digitValue
  omega

theorem digitChar_digitValue {c : Char} (h : isDigit c = true) : digitChar (digitValue c) = c := by
  have hrange := toNat_of_isDigit h
  have hcode : 48 + digitValue c % 10 = c.toNat := by
    unfold digitValue
    omega
  rw [digitChar, hcode, Char.ofNat_toNat]

theorem digits_ne_nil (n : Nat) : digits n ≠ [] := by
  unfold digits
  split <;> simp

theorem ofDigits_append_single (cs : List Char) (c : Char) :
    ofDigits (cs ++ [c]) = 10 * ofDigits cs + digitValue c := by
  simp [ofDigits]

/-- The digits denote the number they were made from. -/
theorem ofDigits_digits (n : Nat) : ofDigits (digits n) = n := by
  fun_induction digits n with
  | case1 n h => simp [ofDigits, digitValue_digitChar, Nat.mod_eq_of_lt h]
  | case2 n h ih => rw [ofDigits_append_single, ih, digitValue_digitChar]; omega

theorem all_isDigit_digits (n : Nat) : ∀ c ∈ digits n, isDigit c = true := by
  fun_induction digits n with
  | case1 n h => simp [isDigit_digitChar]
  | case2 n h ih =>
    intro c hc
    rcases List.mem_append.mp hc with h' | h'
    · exact ih c h'
    · rw [List.mem_singleton.mp h']; exact isDigit_digitChar n

theorem notMem_digits {c : Char} (h : isDigit c = false) (n : Nat) : c ∉ digits n := by
  intro hmem
  rw [all_isDigit_digits n c hmem] at h
  cases h

theorem read?_digits (n : Nat) : read? (digits n) = some n := by
  have h : (digits n).all isDigit = true := List.all_eq_true.mpr (all_isDigit_digits n)
  simp [read?, digits_ne_nil, h, ofDigits_digits]

/-- Digits with no needless zero in front are those of the number they denote. -/
theorem digits_ofDigits {cs : List Char} (hne : cs ≠ []) (hall : ∀ c ∈ cs, isDigit c = true)
    (hzero : ∀ c rest, cs ≠ '0' :: c :: rest) : digits (ofDigits cs) = cs := by
  -- The last digit is split off, as in the definition of `digits`.
  induction h : cs.length generalizing cs with
  | zero => exact absurd (List.length_eq_zero_iff.mp h) hne
  | succ n ih =>
    obtain ⟨front, c, rfl⟩ : ∃ front c, cs = front ++ [c] :=
      ⟨cs.dropLast, cs.getLast hne, (List.dropLast_concat_getLast hne).symm⟩
    have hc : isDigit c = true := hall c (by simp)
    have hvalue : digitValue c < 10 := digitValue_lt hc
    rw [ofDigits_append_single]
    cases front with
    | nil =>
      have hnumber : 10 * ofDigits [] + digitValue c = digitValue c := by simp [ofDigits]
      rw [hnumber, digits, if_pos hvalue, digitChar_digitValue hc, List.nil_append]
    | cons d front =>
      have hfront : digits (ofDigits (d :: front)) = d :: front := by
        refine ih (by simp) (fun e he => hall e (List.mem_append_left _ he)) ?_ (by simpa using h)
        rintro e rest heq
        exact hzero e (rest ++ [c]) (by rw [heq]; rfl)
      have hpos : ofDigits (d :: front) ≠ 0 := by
        intro hnumber
        have hdigits : d :: front = ['0'] := by
          rw [← hfront, hnumber]
          decide +kernel
        exact hzero c [] (by rw [hdigits]; rfl)
      have hdiv : (10 * ofDigits (d :: front) + digitValue c) / 10 = ofDigits (d :: front) := by
        omega
      have hmod : digitChar (10 * ofDigits (d :: front) + digitValue c) = c := by
        rw [digitChar, Nat.mul_add_mod, ← digitChar, digitChar_digitValue hc]
      rw [digits, if_neg (by omega), hdiv, hfront, hmod]

/-- Only zero is written with a zero in front. -/
theorem tail_digits_of_zero {n : Nat} {ds : List Char} (h : digits n = '0' :: ds) :
    ds = [] := by
  fun_induction digits n generalizing ds with
  | case1 n hlt => exact (List.cons.inj h).2.symm
  | case2 n hge ih =>
    cases hfront : digits (n / 10) with
    | nil => exact absurd hfront (digits_ne_nil _)
    | cons c front =>
      rw [hfront] at h ih
      cases h
      -- The digits in front would be a zero on its own.
      have hzero : ofDigits (digits (n / 10)) = 0 := by
        rw [hfront, ih rfl]
        rfl
      rw [ofDigits_digits] at hzero
      omega

/-- Zeros in front do not change what a row of digits denotes. -/
theorem ofDigits_replicate_append (k : Nat) (cs : List Char) :
    ofDigits (List.replicate k '0' ++ cs) = ofDigits cs := by
  induction k with
  | zero => rfl
  | succ k ih =>
    rw [List.replicate_succ, List.cons_append]
    exact ih

theorem all_isDigit_padded (width n : Nat) : ∀ c ∈ padded width n, isDigit c = true := by
  intro c hc
  rcases List.mem_append.mp hc with hzero | hdigit
  · rw [List.eq_of_mem_replicate hzero]
    decide
  · exact all_isDigit_digits n c hdigit

/-- Padding does not hide the number. -/
theorem ofDigits_padded (width n : Nat) : ofDigits (padded width n) = n := by
  rw [padded, ofDigits_replicate_append, ofDigits_digits]

theorem read?_padded (width n : Nat) : read? (padded width n) = some n := by
  have hne : padded width n ≠ [] := by simp [padded, digits_ne_nil]
  have hall : (padded width n).all isDigit = true :=
    List.all_eq_true.mpr (all_isDigit_padded width n)
  rw [read?, if_pos ⟨hne, hall⟩, ofDigits_padded]

/-- What is read: digits, after a plus sign or not, that denote a number up to the bound. -/
theorem readUpTo?_eq_some_iff {bound n : Nat} {cs : List Char} :
    readUpTo? bound cs = some n ↔ ∃ ds, (cs = ds ∨ cs = '+' :: ds) ∧ ds ≠ [] ∧
      (∀ c ∈ ds, isDigit c = true) ∧ ofDigits ds = n ∧ n ≤ bound := by
  have hread : ∀ ds : List Char, (read? ds).filter (· ≤ bound) = some n ↔
      ds ≠ [] ∧ (∀ c ∈ ds, isDigit c = true) ∧ ofDigits ds = n ∧ n ≤ bound := by
    intro ds
    rw [Option.filter_eq_some_iff, read?, Option.ite_none_right_eq_some, List.all_eq_true]
    simp only [Option.some.injEq, decide_eq_true_eq, and_assoc]
  unfold readUpTo?
  split
  · rename_i ds
    dsimp only
    rw [hread]
    constructor
    · intro h
      exact ⟨ds, Or.inr rfl, h⟩
    · rintro ⟨ds', rfl | heq, hne, hall, hrest⟩
      · -- A plus sign is no digit.
        exact absurd (hall '+' List.mem_cons_self) (by decide)
      · cases heq
        exact ⟨hne, hall, hrest⟩
  · rename_i hplus
    dsimp only
    rw [hread]
    constructor
    · intro h
      exact ⟨cs, Or.inl rfl, h⟩
    · rintro ⟨ds, rfl | heq, hrest⟩
      · exact hrest
      · exact absurd heq (hplus ds)

/-- More digits never make a number smaller. -/
theorem le_foldl_digitValue (cs : List Char) (acc : Nat) :
    acc ≤ cs.foldl (fun acc c => 10 * acc + digitValue c) acc := by
  induction cs generalizing acc with
  | nil => exact Nat.le_refl acc
  | cons c cs ih =>
    have hnext := ih (10 * acc + digitValue c)
    rw [List.foldl_cons]
    omega

/-- A machine word is outgrown on the way just when the number does not fit it in the end. -/
theorem readWord?_eq_some_iff {cs : List Char} {n : Nat} :
    readWord? cs = some n ↔ ofDigits cs = n ∧ n < UInt64.size := by
  have hfold : ∀ acc < UInt64.size, cs.foldlM (fun acc c =>
      if 10 * acc + digitValue c < UInt64.size then some (10 * acc + digitValue c) else none) acc =
        some n ↔ cs.foldl (fun acc c => 10 * acc + digitValue c) acc = n ∧ n < UInt64.size := by
    induction cs with
    | nil =>
      intro acc hacc
      constructor
      · rintro ⟨⟩
        exact ⟨rfl, hacc⟩
      · rintro ⟨rfl, -⟩
        rfl
    | cons c cs ih =>
      intro acc _
      rw [List.foldlM_cons, List.foldl_cons]
      by_cases hnext : 10 * acc + digitValue c < UInt64.size
      · rw [if_pos hnext]
        exact ih _ hnext
      · -- Further digits would only make it larger.
        have hle := le_foldl_digitValue cs (10 * acc + digitValue c)
        rw [if_neg hnext]
        constructor
        · rintro ⟨⟩
        · rintro ⟨rfl, hlt⟩
          omega
  exact hfold 0 (by decide)

/-- A row of digits has no sign. -/
theorem readSigned?_of_read? {cs : List Char} {n : Nat} (h : read? cs = some n) :
    readSigned? cs = some (n : Int) := by
  have hdigits : cs.all isDigit = true := by
    unfold read? at h
    split at h
    · rename_i hcs
      exact hcs.2
    · cases h
  unfold readSigned?
  split
  · exact absurd (List.all_eq_true.mp hdigits '-' List.mem_cons_self) (by decide)
  · exact absurd (List.all_eq_true.mp hdigits '+' List.mem_cons_self) (by decide)
  · rw [h]
    rfl

/-- A signed number is read back. -/
theorem readSigned?_signed (n : Int) : readSigned? (signed n) = some n := by
  cases n with
  | ofNat m => exact readSigned?_of_read? (read?_digits m)
  | negSucc m =>
    show (read? (digits (m + 1))).map (fun n : Nat => -(n : Int)) = _
    rw [read?_digits]
    rfl

/-- Numbers that are padded alike are equal. -/
theorem padded_injective {width m n : Nat} (h : padded width m = padded width n) : m = n := by
  rw [← ofDigits_padded width m, h, ofDigits_padded]

theorem length_padded (width n : Nat) :
    (padded width n).length = max width (digits n).length := by
  simp [padded]; omega

end Courier.Decimal
