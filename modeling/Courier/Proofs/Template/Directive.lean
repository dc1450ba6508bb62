import Courier.Template.Format
import Courier.Proofs.Text.Decimal
import Mathlib.Tactic.SplitIfs

/-!
# Formats are judged by their form

`classify` finds what a format comes to. Its digits are read into a machine word and may outgrow it;
as such a width is far too large anyhow, what counts is the number that they denote. A count that is
padded to a width is still the same number, and counts that fit the width are in order as texts.
-/

namespace Courier.Template.Directive

variable {name : PlaceholderName} {f : String} {digits : List Char}

/-! ## Widths -/

/-- Widths are recognised for what they are. -/
theorem widthDigits?_eq_some_iff : widthDigits? f.toList = some digits ↔ IsWidth digits f := by
  unfold widthDigits? IsWidth
  rw [Option.ite_none_right_eq_some, List.getLast?_eq_some_iff, List.all_eq_true]
  constructor
  · rintro ⟨⟨⟨front, hfront⟩, hdigits⟩, hdrop⟩
    rw [hfront, List.dropLast_concat] at hdigits hdrop
    cases hdrop
    exact ⟨hfront, hdigits⟩
  · rintro ⟨hf, hdigits⟩
    rw [hf, List.dropLast_concat]
    exact ⟨⟨⟨digits, rfl⟩, hdigits⟩, rfl⟩

theorem widthDigits?_eq_none (h : ∀ digits, ¬IsWidth digits f) : widthDigits? f.toList = none :=
  Option.eq_none_iff_forall_ne_some.mpr fun digits hdigits =>
    h digits (widthDigits?_eq_some_iff.mp hdigits)

/-- A width has at least the `d`. -/
theorem nonempty_of_isWidth (h : IsWidth digits f) : f ≠ "" := by
  rintro rfl
  exact List.append_ne_nil_of_right_ne_nil digits (List.cons_ne_nil 'd' []) h.1.symm

/-- The width is the number that the digits denote. -/
theorem width?_eq (digits : List Char) :
    width? digits =
      if Decimal.ofDigits digits ≤ 64 then some (Decimal.ofDigits digits) else none := by
  by_cases h : Decimal.ofDigits digits ≤ 64
  · rw [if_pos h]
    exact width?_eq_some_iff.mpr ⟨rfl, h⟩
  · rw [if_neg h, Option.eq_none_iff_forall_ne_some]
    intro width hwidth
    obtain ⟨rfl, hle⟩ := width?_eq_some_iff.mp hwidth
    exact h hle

/-! ## Formats -/

theorem classify_empty (name : PlaceholderName) :
    classify name (some "") = .error (.invalid name "" .empty) := rfl

/-- A width is for counts alone, up to 64. -/
theorem classify_width (name : PlaceholderName) (h : IsWidth digits f) :
    classify name (some f) =
      if name = .count then
        if Decimal.ofDigits digits ≤ 64 then .ok (.zeroPad (Decimal.ofDigits digits))
        else .error (.invalid name f .paddingTooWide)
      else .error (.incompatible name f) := by
  unfold classify
  dsimp only
  rw [if_neg (nonempty_of_isWidth h), widthDigits?_eq_some_iff.mpr h]
  cases name with
  | count =>
    dsimp only
    rw [width?_eq, if_pos rfl]
    split_ifs <;> rfl
  | uuid => rfl
  | timestamp => rfl

/-- What is neither empty nor a width is a date pattern, and for timestamps alone. -/
theorem classify_date (name : PlaceholderName) (hf : f ≠ "") (h : ∀ digits, ¬IsWidth digits f) :
    classify name (some f) =
      if name = .timestamp then .ok (.date (.compile f)) else .error (.incompatible name f) := by
  unfold classify
  dsimp only
  rw [if_neg hf, widthDigits?_eq_none h]
  cases name <;> rfl

/-- What a format is found to mean is what it comes to. -/
theorem judged_classify (name : PlaceholderName) (format : Option String) :
    Judged name format (classify name format) := by
  cases format with
  | none => exact .noFormat
  | some f =>
    by_cases hempty : f = ""
    · rw [hempty, classify_empty]
      exact .empty
    · by_cases hwidth : ∃ digits, IsWidth digits f
      · obtain ⟨digits, hdigits⟩ := hwidth
        rw [classify_width name hdigits]
        split_ifs with hname hle
        · exact .width hdigits hname hle
        · exact .tooWide hdigits hname (Nat.lt_of_not_le hle)
        · exact .widthElsewhere hdigits hname
      · rw [not_exists] at hwidth
        rw [classify_date name hempty hwidth]
        split_ifs with hname
        · exact .date hempty hwidth hname
        · exact .dateElsewhere hempty hwidth hname

/-- A format comes to one thing only. -/
theorem classify_of_judged {format : Option String} {r : Except FormatError Directive}
    (h : Judged name format r) : classify name format = r := by
  cases h with
  | noFormat => rfl
  | empty => exact classify_empty name
  | width width counts fits => rw [classify_width name width, if_pos counts, if_pos fits]
  | tooWide width counts exceeds =>
    rw [classify_width name width, if_pos counts, if_neg (Nat.not_le_of_lt exceeds)]
  | widthElsewhere width other => rw [classify_width name width, if_neg other]
  | date nonempty noWidth dates => rw [classify_date name nonempty noWidth, if_pos dates]
  | dateElsewhere nonempty noWidth other => rw [classify_date name nonempty noWidth, if_neg other]

/-- Formats are classified as they are judged. -/
theorem classify_eq_iff {format : Option String} {r : Except FormatError Directive} :
    classify name format = r ↔ Judged name format r := by
  constructor
  · rintro rfl
    exact judged_classify name format
  · exact classify_of_judged

/-- A placeholder is written just when its format comes to a directive, and refused for what its
format comes to otherwise, whatever the value. -/
theorem classify_and_render_iff (name : PlaceholderName) (format : Option String) :
    (∀ r, classify name format = r ↔ Judged name format r) ∧ ∀ value,
      (∀ e, render name format value = .error e ↔ Judged name format (.error e)) ∧
      (∀ text, render name format value = .ok text ↔
        ∃ directive, Judged name format (.ok directive) ∧ directive.apply value = text) := by
  refine ⟨fun r => classify_eq_iff, ?_⟩
  intro value
  simp only [← classify_eq_iff]
  unfold render
  cases classify name format with
  | error e => simp [Except.map]
  | ok directive => simp [Except.map]

/-- A number that a machine word would take for 64 is too large, and zeros in front do not make 64
too large. -/
example : classify .count (some "18446744073709551680d") =
      .error (.invalid .count "18446744073709551680d" .paddingTooWide) ∧
    classify .count (some "000000000000000000000000064d") = .ok (.zeroPad 64) := by
  decide +kernel

/-! ## Padding -/

/-- A count with this format is written with this many digits at least. -/
structure PadsTo (format : String) (width : Nat) : Prop where
  /-- Zeros are put in front of the plain form, and nothing is cut. -/
  text_eq : ∀ n, ∃ plain, render .count none (.count n) = .ok plain ∧
    plain.length = Nat.log 10 n + 1 ∧
    render .count (some format) (.count n) =
      .ok (String.ofList (List.replicate (width - plain.length) '0' ++ plain.toList))
  digits : ∀ n text, render .count (some format) (.count n) = .ok text →
    ∀ c ∈ text.toList, Decimal.isDigit c = true
  denotes : ∀ n text, render .count (some format) (.count n) = .ok text →
    Decimal.ofDigits text.toList = n
  length_eq : ∀ n text, render .count (some format) (.count n) = .ok text →
    text.length = max width (Nat.log 10 n + 1)
  injective : ∀ m n, render .count (some format) (.count m) =
    render .count (some format) (.count n) → m = n
  /-- Counts that fit the width are in the order of the bytes of their texts. -/
  ordered : ∀ m n text text', m < n → n < 10 ^ width →
    render .count (some format) (.count m) = .ok text →
    render .count (some format) (.count n) = .ok text' →
    text.toList.flatMap String.utf8EncodeChar < text'.toList.flatMap String.utf8EncodeChar

/-- A format that is accepted as padding pads. -/
theorem padsTo_of_classify {format : String} {width : Nat}
    (h : classify .count (some format) = .ok (.zeroPad width)) : PadsTo format width := by
  have hrender : ∀ n, render .count (some format) (.count n) =
      .ok (String.ofList (Decimal.padded width n)) := by
    intro n
    rw [render, h]
    rfl
  constructor
  case text_eq =>
    intro n
    refine ⟨String.ofList (Decimal.digits n), rfl, ?_, ?_⟩
    · rw [String.length_ofList, Decimal.length_digits]
    · rw [hrender, String.length_ofList, String.toList_ofList]
      rfl
  case digits =>
    intro n text htext
    cases (hrender n).symm.trans htext
    rw [String.toList_ofList]
    exact Decimal.all_isDigit_padded width n
  case denotes =>
    intro n text htext
    cases (hrender n).symm.trans htext
    rw [String.toList_ofList, Decimal.ofDigits_padded]
  case length_eq =>
    intro n text htext
    cases (hrender n).symm.trans htext
    rw [String.length_ofList, Decimal.length_padded, Decimal.length_digits]
  case injective =>
    intro m n hmn
    rw [hrender, hrender] at hmn
    exact Decimal.padded_injective (String.ofList_inj.mp (Except.ok.inj hmn))
  case ordered =>
    intro m n text text' hlt hn htext htext'
    cases (hrender m).symm.trans htext
    cases (hrender n).symm.trans htext'
    rw [String.toList_ofList, String.toList_ofList]
    -- A number with fewer digits than the width leaves room for one.
    have hwidth : width ≠ 0 := by
      rintro rfl
      omega
    apply Decimal.flatMap_lt_of_ofDigits_lt
    · exact Decimal.all_isDigit_padded width m
    · exact Decimal.all_isDigit_padded width n
    · rw [Decimal.length_padded_of_lt hwidth (Nat.lt_trans hlt hn),
        Decimal.length_padded_of_lt hwidth hn]
    · rw [Decimal.ofDigits_padded, Decimal.ofDigits_padded]
      exact hlt

/-- A format that a count can take is a width of at most 64, and counts are padded to it. -/
theorem exists_padsTo_of_accepted {format : String} {directive : Directive}
    (accepted : classify .count (some format) = .ok directive) :
    ∃ digits width, IsWidth digits format ∧ Decimal.ofDigits digits = width ∧ width ≤ 64 ∧
      directive = .zeroPad width ∧ PadsTo format width := by
  cases classify_eq_iff.mp accepted with
  | @width digits _ width _ fits =>
    exact ⟨digits, _, width, rfl, fits, rfl, padsTo_of_classify accepted⟩
  | date _ _ dates => cases dates

/-- A zero in front of a width counts for nothing. -/
theorem exists_padsTo_of_leading_zero :
    classify .count (some "04d") = .ok (.zeroPad 4) ∧
      ∃ digits width, IsWidth digits "04d" ∧ Decimal.ofDigits digits = width ∧ width ≤ 64 ∧
        Directive.zeroPad 4 = .zeroPad width ∧ PadsTo "04d" width := by
  have accepted : classify .count (some "04d") = .ok (.zeroPad 4) := by decide +kernel
  exact ⟨accepted, exists_padsTo_of_accepted accepted⟩

end Courier.Template.Directive
