import Courier.Proofs.Template.Substitution

/-!
# Messages without placeholders are their own templates

A text in which nothing is to be filled in stays what it is, and a text without braces is one of
them. So a message whose texts are all like that can be taken as a template, and whatever the
context, this very message is made of it.
-/

namespace Courier.Template

open Drawing

theorem nonempty_desk : Nonempty Desk :=
  ⟨⟨.make 0 ⟨0, 0, by decide, by decide, by decide, by decide⟩ false, .seeded 0⟩⟩

/-- Nothing is to be filled in in this text. -/
def IsLiteral (text : String) : Prop :=
  ∃ field, Field.parse text = .ok field ∧ field.isLiteral = true

/-- A text without braces is a row of plain characters. -/
theorem row_of_braceless {cs : List Char} (h : Braceless cs) (pos : Nat) :
    Row pos 0 (cs.map .plain) := by
  induction cs generalizing pos with
  | nil => exact .nil
  | cons c cs ih =>
    obtain ⟨hc, hcs⟩ := List.forall_mem_cons.mp h
    exact .plain hc (ih hcs _)

theorem isLiteral_of_braceless {text : String} (h : Braceless text.toList) : IsLiteral text := by
  let ls := text.toList.map Lexeme.plain
  have hprint : printLexemes ls = text.toList := by
    rw [printLexemes, List.flatMap_map]
    exact List.flatMap_singleton' text.toList
  have divides : Divides text.toList ls :=
    divides_iff_row.mpr ⟨hprint, row_of_braceless h 0⟩
  have hnone : (segmentsOf ls).filterMap Segment.placeholder? = [] := by
    rw [placeholders_segmentsOf, List.filterMap_eq_nil_iff]
    intro l hl
    obtain ⟨c, -, rfl⟩ := List.mem_map.mp hl
    rfl
  refine ⟨⟨text, segmentsOf ls⟩, parse_eq_ok_iff.mpr ⟨ls, divides, rfl⟩, ?_⟩
  rw [Field.isLiteral, Field.placeholderCount, Field.placeholders, hnone]
  rfl

/-! ## Substitution changes nothing -/

/-- Segments without placeholders are rendered to the same texts at every desk. -/
theorem exists_mapM_render_eq_pure {segments : List Segment}
    (literal : segments.filterMap Segment.placeholder? = []) :
    ∃ texts, segments.mapM Segment.render = pure texts := by
  induction segments with
  | nil => exact ⟨[], List.mapM_nil⟩
  | cons s rest ih =>
    cases s with
    | placeholder p => cases literal
    | literal text =>
      obtain ⟨texts, htexts⟩ := ih literal
      refine ⟨text :: texts, ?_⟩
      rw [List.mapM_cons, htexts]
      rfl

theorem substituteText_of_isLiteral {text : String} (h : IsLiteral text) (location : Location) :
    substituteText location text = pure text := by
  obtain ⟨field, parsed, hliteral⟩ := h
  have hnone : field.segments.filterMap Segment.placeholder? = [] := by
    simpa [Field.isLiteral, Field.placeholderCount, Field.placeholders] using hliteral
  obtain ⟨texts, htexts⟩ := exists_mapM_render_eq_pure hnone
  have hpure : substituteText location text = pure (String.join texts) := by
    rw [substituteText, parsed]
    dsimp only
    rw [htexts]
    rfl
  have hyields : Yields (substituteText location text) (String.join texts) := by
    rw [hpure]
    obtain ⟨d⟩ := nonempty_desk
    exact ⟨d, d, rfl⟩
  rw [hpure, (fillsIn_of_yields hyields).literal field parsed hliteral]

theorem substituteOptional_of_isLiteral {text : Option String} (h : ∀ s ∈ text, IsLiteral s)
    (location : Location) : text.mapM (substituteText location) = pure text := by
  cases text with
  | none => rfl
  | some s =>
    rw [Option.mapM_some, substituteText_of_isLiteral (h s rfl)]
    rfl

theorem substituteHeaders_of_isLiteral {headers : List Header}
    (h : ∀ header ∈ headers, IsLiteral header.key ∧ IsLiteral header.value) (index : Nat) :
    ((headers.zipIdx index).mapM fun (h, i) => substituteHeader i h) = pure headers := by
  induction headers generalizing index with
  | nil => rfl
  | cons header headers ih =>
    obtain ⟨⟨hkey, hvalue⟩, hrest⟩ := List.forall_mem_cons.mp h
    have hheader : substituteHeader index header = pure header := by
      rw [substituteHeader, substituteText_of_isLiteral hkey, substituteText_of_isLiteral hvalue]
      rfl
    rw [List.zipIdx_cons, List.mapM_cons, ih hrest]
    dsimp only
    rw [hheader]
    rfl

/-- What holds of all texts of a template. -/
theorem MessageTemplate.forall_texts_iff {t : MessageTemplate} {P : String → Prop} :
    (∀ p ∈ t.texts, P p.2) ↔
      (∀ s ∈ t.key, P s) ∧ (∀ s ∈ t.value, P s) ∧ ∀ h ∈ t.headers, P h.key ∧ P h.value := by
  have hoptional : ∀ (location : Location) (text : Option String),
      (∀ p ∈ (text.map (location, ·)).toList, P p.2) ↔ ∀ s ∈ text, P s := by
    intro location text
    cases text <;> simp
  have hheaders : ∀ (headers : List Header) (index : Nat),
      (∀ p ∈ (headers.zipIdx index).flatMap fun (h, i) =>
          [(Location.headerKey i, h.key), (.headerValue i, h.value)], P p.2) ↔
        ∀ h ∈ headers, P h.key ∧ P h.value := by
    intro headers
    induction headers with
    | nil => simp
    | cons header headers ih =>
      intro index
      rw [List.zipIdx_cons, List.flatMap_cons, List.forall_mem_append, ih, List.forall_mem_cons]
      simp
  rw [texts, List.forall_mem_append, List.forall_mem_append, hoptional, hoptional, hheaders,
    and_assoc]

namespace Message

variable {m : Message}

/-- A message whose texts are literal is the substitution of its own template. -/
theorem substitute_toTemplate (literal : ∀ p ∈ m.toTemplate.texts, IsLiteral p.2) :
    m.toTemplate.substitute = pure m := by
  obtain ⟨hkey, hvalue, hheaders⟩ := MessageTemplate.forall_texts_iff.mp literal
  have hzip := substituteHeaders_of_isLiteral hheaders 0
  rw [MessageTemplate.substitute, substituteOptional_of_isLiteral hkey,
    substituteOptional_of_isLiteral hvalue, hzip]
  rfl

/-- A message with nothing to be filled in is made of itself, in any context and without drawing an
identifier. -/
theorem exists_compile_toTemplate (literal : ∀ p ∈ m.toTemplate.texts, IsLiteral p.2) :
    ∃ t, CompiledTemplate.compile m.toTemplate = .ok t ∧ t.validate = .ok () ∧
      ∀ context supply, t.materializeIn context supply = (.ok m, { context, supply }) := by
  have hfaults : m.toTemplate.parseFaults = [] := by
    rw [MessageTemplate.parseFaults, List.filterMap_eq_nil_iff]
    rintro ⟨location, text⟩ htext
    obtain ⟨field, parsed, -⟩ := literal _ htext
    dsimp only
    rw [parsed]
    rfl
  cases compiled : CompiledTemplate.compile m.toTemplate with
  | error e =>
    have hfirst := CompiledTemplate.refusal?_compile m.toTemplate
    rw [compiled, hfaults] at hfirst
    cases hfirst
  | ok t =>
    have hmade : ∀ context supply,
        t.materializeIn context supply = (.ok m, { context, supply }) := by
      intro context supply
      rw [CompiledTemplate.materializeIn, CompiledTemplate.materialize_eq_substitute compiled,
        substitute_toTemplate literal]
      rfl
    refine ⟨t, rfl, ?_, hmade⟩
    -- Validation says how the making of a message ends at any desk.
    obtain ⟨d⟩ := nonempty_desk
    have hends := CompiledTemplate.ends_materialize t d
    have hrun : t.materialize.run.run d = (.ok m, d) := hmade d.context d.supply
    rw [hrun] at hends
    exact hends.symm

end Message

end Courier.Template
