import Courier.Proofs.Template.Grammar

/-!
# Parsing loses nothing

The segments of a parsed field print as the field, and each placeholder occupies just the bytes it
is written in. So the source of a placeholder can be cut out of the field by its positions.
-/

namespace Courier.Template

/-! ## Positions as positions in strings -/

theorem utf8ByteSize_ofList (cs : List Char) :
    (String.ofList cs).utf8ByteSize = Text.byteLength cs := by
  induction cs with
  | nil => rfl
  | cons c cs ih =>
    rw [String.ofList_cons, String.utf8ByteSize_append, String.utf8ByteSize_singleton, ih,
      Text.byteLength_cons]

/-- The end of a front part of a text is a boundary between characters. -/
theorem isValid_of_append (front back : List Char) :
    String.Pos.Raw.IsValid (String.ofList (front ++ back)) ⟨Text.byteLength front⟩ := by
  rw [String.Pos.Raw.isValid_iff_exists_append]
  refine ⟨String.ofList front, String.ofList back, String.ofList_append, ?_⟩
  rw [← utf8ByteSize_ofList]
  rfl

/-- The bytes of the middle of three parts. -/
theorem extract_of_append (front middle back : List Char) :
    (String.ofList (front ++ middle ++ back)).toByteArray.extract (Text.byteLength front)
        (Text.byteLength front + Text.byteLength middle) =
      (String.ofList middle).toByteArray := by
  have hfront : (String.ofList front).toByteArray.size = Text.byteLength front :=
    utf8ByteSize_ofList front
  have hmiddle : (String.ofList middle).toByteArray.size = Text.byteLength middle :=
    utf8ByteSize_ofList middle
  rw [List.append_assoc, String.ofList_append, String.ofList_append, String.toByteArray_append,
    String.toByteArray_append, ← hfront, ← hmiddle]
  have := ByteArray.extract_append_size_add (a := (String.ofList front).toByteArray)
    (b := (String.ofList middle).toByteArray ++ (String.ofList back).toByteArray) (i := 0)
    (j := (String.ofList middle).toByteArray.size)
  rw [Nat.add_zero] at this
  rw [this, ByteArray.extract_append_eq_left rfl]

/-! ## Placeholders in a text -/

theorem Segment.mem_placeholders {f : Field} {p : Placeholder} :
    p ∈ f.placeholders ↔ ∃ i : Nat, f.segments[i]? = some (.placeholder p) := by
  unfold Field.placeholders
  rw [List.mem_filterMap, ← List.mem_iff_getElem?]
  constructor
  · rintro ⟨s, hs, hp⟩
    cases s with
    | literal t => cases hp
    | placeholder q =>
      cases hp
      exact hs
  · intro h
    exact ⟨_, h, rfl⟩

/-- A placeholder of a divided text stands behind the segments in front of it, and is written out
there. -/
theorem Divides.placeholder {cs : List Char} {ls : List Lexeme} (h : Divides cs ls) {i : Nat}
    {p : Placeholder} (hi : (segmentsOf ls)[i]? = some (.placeholder p)) :
    let front := printSegments ((segmentsOf ls).take i)
    (∃ back, cs = front ++ p.print ++ back) ∧
      p = Placeholder.at (Text.byteLength front) p.name p.format ∧
      ∀ g, p.format = some g → Braceless g.toList := by
  intro front
  obtain ⟨hlt, hget⟩ := List.getElem?_eq_some_iff.mp hi
  have hsplit : segmentsOf ls = (segmentsOf ls).take i ++ .placeholder p ::
      (segmentsOf ls).drop (i + 1) := by
    rw [← hget, List.getElem_cons_drop, List.take_append_drop]
  obtain ⟨before, after, hls, hprint⟩ := exists_split_of_segmentsOf hsplit
  have fit := h.fits before (.placeholder p) after hls
  rw [hprint] at fit
  refine ⟨⟨printLexemes after, ?_⟩, fit.1, fit.2⟩
  calc cs = printLexemes (before ++ .placeholder p :: after) := by rw [← hls, h.print_eq]
    _ = front ++ p.print ++ printLexemes after := by
      rw [printLexemes_append, printLexemes_cons, hprint, List.append_assoc]
      rfl

/-- A placeholder begins where the segments before it end, and is as long as it is written. -/
theorem Divides.start_stop {cs : List Char} {ls : List Lexeme} (h : Divides cs ls) {i : Nat}
    {p : Placeholder} (hi : (segmentsOf ls)[i]? = some (.placeholder p)) :
    p.start = Text.byteLength (printSegments ((segmentsOf ls).take i)) ∧
      p.stop = p.start + Text.byteLength p.print := by
  obtain ⟨-, placed, -⟩ := h.placeholder hi
  rw [placed]
  exact ⟨rfl, rfl⟩

/-- The text around a placeholder, cut where it starts and where it stops. -/
theorem Divides.around {text : String} {ls : List Lexeme} (h : Divides text.toList ls) {i : Nat}
    {p : Placeholder} (hi : (segmentsOf ls)[i]? = some (.placeholder p)) :
    ∃ front back, text = String.ofList (front ++ p.print ++ back) ∧
      p.start = Text.byteLength front ∧
      p.stop = Text.byteLength front + Text.byteLength p.print := by
  obtain ⟨⟨back, htext⟩, -, -⟩ := h.placeholder hi
  obtain ⟨hstart, hstop⟩ := h.start_stop hi
  refine ⟨_, back, ?_, hstart, hstart ▸ hstop⟩
  rw [← htext, String.ofList_toList]

/-! ## Fields -/

/-- A field is an exact account of a text. -/
structure Field.Exact (text : String) (f : Field) : Prop where
  source_eq : f.source = text
  /-- The segments print as the text. -/
  print_eq : String.ofList (printSegments f.segments) = text
  /-- A placeholder starts where the segments in front of it end. -/
  start_eq : ∀ (i : Nat) (p : Placeholder), f.segments[i]? = some (.placeholder p) →
    p.start = Text.byteLength (printSegments (f.segments.take i))
  /-- A placeholder stops where its written form ends. -/
  stop_eq : ∀ p ∈ f.placeholders, p.stop = p.start + Text.byteLength p.print
  /-- Both positions are boundaries between characters of the text. -/
  boundary : ∀ p ∈ f.placeholders,
    String.Pos.Raw.IsValid text ⟨p.start⟩ ∧ String.Pos.Raw.IsValid text ⟨p.stop⟩
  /-- The bytes between them are those of the written form. -/
  bytes_eq : ∀ p ∈ f.placeholders,
    text.toByteArray.extract p.start p.stop = (String.ofList p.print).toByteArray
  sourceText_placeholder : ∀ (i : Nat) (p : Placeholder),
    f.segments[i]? = some (.placeholder p) → f.sourceText? i = some (String.ofList p.print)
  sourceText_literal : ∀ (i : Nat) (t : String),
    f.segments[i]? = some (.literal t) → f.sourceText? i = none
  sourceText_outside : ∀ i : Nat, f.segments.length ≤ i → f.sourceText? i = none
  /-- No literal is empty and no two literals are next to each other. -/
  tight : Tight f.segments
  /-- No format holds a brace. -/
  format_braceless : ∀ p ∈ f.placeholders, ∀ g, p.format = some g → Braceless g.toList

/-- A parsed field is an exact account of the text it was parsed from. -/
theorem exact_of_parse {text : String} {f : Field} (h : Field.parse text = .ok f) :
    f.Exact text := by
  obtain ⟨ls, hls, rfl⟩ := parse_eq_ok_iff.mp h
  constructor
  case source_eq => rfl
  case print_eq =>
    rw [printSegments_segmentsOf, hls.print_eq, String.ofList_toList]
  case start_eq =>
    intro i p hi
    exact (hls.start_stop hi).1
  case stop_eq =>
    intro p hp
    obtain ⟨i, hi⟩ := Segment.mem_placeholders.mp hp
    exact (hls.start_stop hi).2
  case boundary =>
    intro p hp
    obtain ⟨i, hi⟩ := Segment.mem_placeholders.mp hp
    obtain ⟨front, back, rfl, hstart, hstop⟩ := hls.around hi
    constructor
    · rw [hstart, List.append_assoc]
      exact isValid_of_append front (p.print ++ back)
    · rw [hstop, ← Text.byteLength_append]
      exact isValid_of_append (front ++ p.print) back
  case bytes_eq =>
    intro p hp
    obtain ⟨i, hi⟩ := Segment.mem_placeholders.mp hp
    obtain ⟨front, back, rfl, hstart, hstop⟩ := hls.around hi
    rw [hstart, hstop]
    exact extract_of_append front p.print back
  case sourceText_placeholder =>
    intro i p hi
    obtain ⟨front, back, rfl, hstart, hstop⟩ := hls.around hi
    simp only [Field.sourceText?, hi]
    rw [hstart, hstop, String.toList_ofList, Text.between_append]
  case sourceText_literal =>
    intro i t hi
    simp only [Field.sourceText?, hi]
  case sourceText_outside =>
    intro i hi
    simp only [Field.sourceText?, List.getElem?_eq_none hi]
  case tight => exact tight_segmentsOf ls
  case format_braceless =>
    intro p hp
    obtain ⟨i, hi⟩ := Segment.mem_placeholders.mp hp
    exact (hls.placeholder hi).2.2

/-- Placeholders next to each other, after a letter of two bytes and inside a literal brace. -/
theorem exact_of_parse_touching :
    ∃ f, Field.parse "é\x7b\"n\":\x7bcount:\x7d\x7buuid\x7d\x7d" = .ok f ∧
      f.placeholders = [⟨.count, some "", 7, 15⟩, ⟨.uuid, none, 15, 21⟩] ∧
      f.Exact "é\x7b\"n\":\x7bcount:\x7d\x7buuid\x7d\x7d" := by
  have parsed : Field.parse "é\x7b\"n\":\x7bcount:\x7d\x7buuid\x7d\x7d" =
      .ok ⟨"é\x7b\"n\":\x7bcount:\x7d\x7buuid\x7d\x7d",
        [.literal "é\x7b\"n\":", .placeholder ⟨.count, some "", 7, 15⟩,
          .placeholder ⟨.uuid, none, 15, 21⟩, .literal "\x7d"]⟩ := by
    decide +kernel
  exact ⟨_, parsed, rfl, exact_of_parse parsed⟩

end Courier.Template
