import Mathlib.Data.List.Basic

/-!
# ASCII in UTF-8

An ASCII character is one byte in UTF-8, so that texts of such characters come in the order of their
bytes.
-/

namespace Courier.Text

/-- An ASCII character. -/
def IsAscii (c : Char) : Prop :=
  c.toNat < 128

instance : DecidablePred IsAscii := fun c => inferInstanceAs (Decidable (c.toNat < 128))

theorem isAscii_of_isAlphanum {c : Char} (h : c.isAlphanum = true) : IsAscii c := by
  have hrange : ((decide ('A'.val ≤ c.val ∧ c.val ≤ 'Z'.val) ||
      (decide ('a'.val ≤ c.val) && decide (c.val ≤ 'z'.val))) ||
      (decide ('0'.val ≤ c.val) && decide (c.val ≤ '9'.val))) = true := h
  simp only [Bool.or_eq_true, Bool.and_eq_true, decide_eq_true_eq,
    UInt32.le_iff_toNat_le] at hrange
  unfold IsAscii Char.toNat
  have hZ : 'Z'.val.toNat = 90 := rfl
  have hz : 'z'.val.toNat = 122 := rfl
  have h9 : '9'.val.toNat = 57 := rfl
  omega

/-- An ASCII character is one byte in UTF-8. -/
theorem utf8EncodeChar_of_isAscii {c : Char} (h : IsAscii c) :
    String.utf8EncodeChar c = [c.val.toUInt8] := by
  have hval : c.val.toNat ≤ 127 := Nat.le_of_lt_succ h
  apply String.utf8EncodeChar_eq_singleton
  unfold Char.utf8Size
  rw [if_pos (UInt32.le_iff_toNat_le.mpr hval)]

theorem toUInt8_lt_of_lt {c d : Char} (hc : IsAscii c) (hd : IsAscii d) (h : c < d) :
    c.val.toUInt8 < d.val.toUInt8 := by
  have hlt : c.val.toNat < d.val.toNat := UInt32.lt_iff_toNat_lt.mp h
  unfold IsAscii Char.toNat at hc hd
  rw [UInt8.lt_iff_toNat_lt, UInt32.toNat_toUInt8, UInt32.toNat_toUInt8]
  omega

/-- ASCII texts in alphabetical order are in the order of their bytes. -/
theorem flatMap_utf8EncodeChar_lt {cs ds : List Char} (hcs : ∀ c ∈ cs, IsAscii c)
    (hds : ∀ d ∈ ds, IsAscii d) (h : cs < ds) :
    cs.flatMap String.utf8EncodeChar < ds.flatMap String.utf8EncodeChar := by
  induction cs generalizing ds with
  | nil =>
    cases ds with
    | nil => exact absurd h (List.not_lt_nil _)
    | cons d ds =>
      rw [List.flatMap_cons, utf8EncodeChar_of_isAscii (hds d List.mem_cons_self)]
      exact List.nil_lt_cons _ _
  | cons c cs ih =>
    cases ds with
    | nil => exact absurd h (List.not_lt_nil _)
    | cons d ds =>
      obtain ⟨hc, hcs'⟩ := List.forall_mem_cons.mp hcs
      obtain ⟨hd, hds'⟩ := List.forall_mem_cons.mp hds
      rw [List.flatMap_cons, List.flatMap_cons, utf8EncodeChar_of_isAscii hc,
        utf8EncodeChar_of_isAscii hd]
      show c.val.toUInt8 :: _ < d.val.toUInt8 :: _
      rw [List.cons_lt_cons_iff] at h ⊢
      rcases h with hlt | ⟨rfl, hlt⟩
      · exact Or.inl (toUInt8_lt_of_lt hc hd hlt)
      · exact Or.inr ⟨rfl, ih hcs' hds' hlt⟩

end Courier.Text
