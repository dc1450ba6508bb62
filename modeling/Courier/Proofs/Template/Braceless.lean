import Courier.Proofs.Template.Directive
import Courier.Proofs.Time.Reading
import Courier.Proofs.Uuid
import Courier.Template.Grammar

/-!
# Values are written without braces

A placeholder whose format holds no brace comes to a text that holds none: numbers, identifiers and
fields of instants are made of digits, letters and a few signs, and what a date pattern takes over
unchanged is part of the pattern.
-/

namespace Courier.Template

/-! ## Texts without braces -/

instance (cs : List Char) : Decidable (Braceless cs) :=
  List.decidableBAll (fun c => isBrace c = false) cs

theorem braceless_cons_iff {c : Char} {cs : List Char} :
    Braceless (c :: cs) ↔ isBrace c = false ∧ Braceless cs :=
  List.forall_mem_cons

theorem braceless_append_iff {xs ys : List Char} :
    Braceless (xs ++ ys) ↔ Braceless xs ∧ Braceless ys :=
  List.forall_mem_append

/-- Characters of a class without braces. -/
theorem braceless_of_class {p : Char → Bool} {cs : List Char} (h : ∀ c ∈ cs, p c = true)
    (opening : p '{' = false) (closing : p '}' = false) : Braceless cs := by
  intro c hc
  have hopen : c ≠ '{' := by
    rintro rfl
    rw [h _ hc] at opening
    cases opening
  have hclose : c ≠ '}' := by
    rintro rfl
    rw [h _ hc] at closing
    cases closing
  simp [isBrace, hopen, hclose]

/-- Without braces there are none to be found. -/
theorem Braceless.filter_eq_nil {cs : List Char} (h : Braceless cs) : cs.filter isBrace = [] := by
  rw [List.filter_eq_nil_iff]
  intro c hc
  rw [h c hc]
  exact Bool.false_ne_true

/-! ## Numbers and identifiers -/

theorem braceless_digits (n : Nat) : Braceless (Decimal.digits n) :=
  braceless_of_class (Decimal.all_isDigit_digits n) rfl rfl

theorem braceless_padded (width n : Nat) : Braceless (Decimal.padded width n) := by
  refine braceless_append_iff.mpr ⟨?_, braceless_digits n⟩
  intro c hc
  rw [List.eq_of_mem_replicate hc]
  rfl

theorem braceless_signed (n : Int) : Braceless (Decimal.signed n) := by
  cases n with
  | ofNat m => exact braceless_digits m
  | negSucc m => exact braceless_cons_iff.mpr ⟨rfl, braceless_digits (m + 1)⟩

theorem braceless_hexDigits (count n : Nat) : Braceless (Uuid.hexDigits count n) :=
  braceless_of_class (fun _ => Uuid.isHexDigit_of_mem_hexDigits) rfl rfl

theorem braceless_hyphenated (id : Uuid) : Braceless id.hyphenated := by
  have hyphen : isBrace '-' = false := rfl
  simp only [Uuid.hyphenated, braceless_append_iff, braceless_cons_iff, hyphen,
    braceless_hexDigits, and_self]

/-! ## Instants -/

theorem braceless_yearText (year : Int) : Braceless (Time.DateToken.yearText year) := by
  unfold Time.DateToken.yearText
  split_ifs
  · exact braceless_padded 4 _
  · exact braceless_cons_iff.mpr ⟨rfl, braceless_padded 4 _⟩
  · exact braceless_cons_iff.mpr ⟨rfl, braceless_padded 4 _⟩

/-- No token of a date pattern is written with braces. -/
theorem braceless_field (t : Time.Instant) (token : Time.DateToken) :
    Braceless (token.render t) := by
  cases token with
  | year => exact braceless_yearText _
  | half =>
    unfold Time.DateToken.render
    dsimp only
    split_ifs <;> decide
  | offset => exact (by decide : Braceless "+00:00".toList)
  | epochSeconds => exact braceless_signed _
  | epochMillis => exact braceless_signed _
  | month | day | hour | halfHour | minute | second => exact braceless_digits _
  | _ => exact braceless_padded _ _

theorem braceless_standardText (t : Time.Instant) : Braceless t.standardText.toList := by
  have hyphen : isBrace '-' = false := rfl
  have letter : isBrace 'T' = false := rfl
  have colon : isBrace ':' = false := rfl
  have zone : Braceless ['Z'] := by decide
  simp only [Time.Instant.standardText, String.toList_ofList, braceless_append_iff,
    braceless_cons_iff, braceless_padded, braceless_yearText, hyphen, letter, colon, zone, and_self]

/-! ## Date patterns -/

/-- A piece is written without braces if it holds none in the pattern. -/
theorem braceless_piece {piece : Time.PatternPiece} (h : Braceless piece.print)
    (t : Time.Instant) : Braceless (piece.render t) := by
  cases piece with
  | bracketed text => exact (braceless_append_iff.mp (braceless_cons_iff.mp h).2).1
  | field token => exact braceless_field t token
  | plain c => exact h

/-- A date pattern brings along only the braces that it was given. -/
theorem braceless_format {format : String} (h : Braceless format.toList) (t : Time.Instant) :
    Braceless ((Time.Pattern.compile format).format t).toList := by
  obtain ⟨pieces, reads, written⟩ := Time.exists_pieces_of_itemsFrom [] format.toList
  rw [Time.Pattern.format, String.toList_ofList, Time.Pattern.compile, written, List.nil_append]
  rw [← reads.print_eq] at h
  intro c hc
  obtain ⟨piece, hpiece, hrender⟩ := List.mem_flatMap.mp hc
  apply braceless_piece _ t c hrender
  intro d hd
  exact h d (List.mem_flatMap.mpr ⟨piece, hpiece, hd⟩)

/-! ## Values -/

/-- No value has braces in its standard form. -/
theorem Value.braceless_standardText (value : Value) : Braceless value.standardText.toList := by
  cases value with
  | uuid id =>
    rw [Value.standardText, String.toList_ofList]
    exact braceless_hyphenated id
  | count n =>
    rw [Value.standardText, String.toList_ofList]
    exact braceless_digits n
  | timestamp t => exact Template.braceless_standardText t

namespace Directive

/-- A directive that brings no brace along. -/
def Plain : Directive → Prop
  | .date pattern => ∃ format : String, Braceless format.toList ∧ pattern = .compile format
  | _ => True

/-- The directive of a format without braces. -/
theorem plain_of_classify {name : PlaceholderName} {format : Option String} {directive : Directive}
    (h : classify name format = .ok directive) (hf : ∀ f, format = some f → Braceless f.toList) :
    directive.Plain := by
  cases classify_eq_iff.mp h with
  | noFormat => trivial
  | width => trivial
  | date => exact ⟨_, hf _ rfl, rfl⟩

/-- A directive without braces writes none. -/
theorem braceless_apply {directive : Directive} (h : directive.Plain) (value : Value) :
    Braceless (directive.apply value).toList := by
  unfold apply
  split
  · rw [String.toList_ofList]
    exact braceless_padded _ _
  · obtain ⟨format, hf, rfl⟩ := h
    exact braceless_format hf _
  · exact value.braceless_standardText

/-- Whatever a placeholder stands for, it comes to a text without braces. -/
theorem braceless_render {name : PlaceholderName} {format : Option String} {value : Value}
    {text : String} (h : render name format value = .ok text)
    (hf : ∀ f, format = some f → Braceless f.toList) : Braceless text.toList := by
  unfold render at h
  cases hclass : classify name format with
  | error e =>
    rw [hclass] at h
    cases h
  | ok directive =>
    rw [hclass] at h
    cases h
    exact braceless_apply (plain_of_classify hclass hf) value

end Directive

end Courier.Template
