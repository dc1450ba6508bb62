import Courier.Template.Substitution
import Courier.Proofs.Template.Grammar
import Courier.Proofs.Template.Judgement
import Mathlib.Data.List.Forall2

/-!
# A compiled template is filled in by plain substitution

Compiling a template judges each format once and keeps the directives in a row of their own. Filling
in takes them from this row one by one, and as there is one for each placeholder, this is the same
computation as substituting text by text: it gives the same message or refusal and draws the same
identifiers.
-/

namespace Courier.Template

/-! ## One computation -/

theorem Segment.render_of_error {p : Placeholder} {e : FormatError}
    (judged : p.directive = .error e) : Segment.render (.placeholder p) = throw e := by
  rw [Placeholder.directive] at judged
  rw [Segment.render, Desk.render, judged]

theorem Segment.render_of_ok {p : Placeholder} {directive : Directive}
    (judged : p.directive = .ok directive) :
    Segment.render (.placeholder p) = liftM (Desk.renderWith p.name directive) := by
  rw [Placeholder.directive] at judged
  rw [Segment.render, Desk.render, judged]

namespace CompiledText

/-- Each placeholder finds its own directive at the front of those that are left. -/
theorem renderSegments_eq_mapM (segments : List Segment) :
    renderSegments segments
        ((segments.filterMap Segment.placeholder?).map Placeholder.directive) =
      segments.mapM Segment.render := by
  induction segments with
  | nil => rfl
  | cons segment rest ih =>
    rw [List.mapM_cons, ← ih]
    cases segment with
    | literal text => rfl
    | placeholder p =>
      have hsplit : ((Segment.placeholder p :: rest).filterMap Segment.placeholder?).map
          Placeholder.directive = p.directive ::
            (rest.filterMap Segment.placeholder?).map Placeholder.directive := rfl
      rw [hsplit]
      cases judged : p.directive with
      | error e =>
        rw [Segment.render_of_error judged]
        rfl
      | ok directive =>
        rw [Segment.render_of_ok judged]
        rfl

/-- A compiled text is filled in as the text itself. -/
theorem materialize_eq_substituteText {location : Location} {text : String} {t : CompiledText}
    (compiled : compile location text = .ok t) :
    t.materialize location = substituteText location text := by
  unfold compile at compiled
  unfold substituteText
  cases hparse : Field.parse text with
  | error e =>
    rw [hparse] at compiled
    cases compiled
  | ok field =>
    rw [hparse] at compiled
    cases compiled
    have hsegments := renderSegments_eq_mapM field.segments
    unfold materialize
    dsimp only
    rw [← hsegments]
    rfl

end CompiledText

namespace CompiledTemplate

theorem materializeOptional_eq_mapM {location : Location} {text : Option String}
    {t : Option CompiledText} (compiled : compileOptional location text = .ok t) :
    materializeOptional location t = text.mapM (substituteText location) := by
  cases text with
  | none =>
    cases compiled
    rfl
  | some s =>
    have hbind : (CompiledText.compile location s >>= fun c => .ok (some c)) = .ok t := by
      rw [← compiled, compileOptional]
      cases CompiledText.compile location s <;> rfl
    obtain ⟨c, hs, hc⟩ := exists_of_bind_eq_ok hbind
    cases hc
    rw [Option.mapM_some, ← CompiledText.materialize_eq_substituteText hs, map_eq_pure_bind]
    rfl

/-- The headers keep their places. -/
theorem materializeHeaders_eq_mapM {headers : List Header} {index : Nat}
    {compiledHeaders : List (CompiledText × CompiledText)}
    (compiled : compileHeaders index headers = .ok compiledHeaders) :
    materializeHeaders index compiledHeaders =
      (headers.zipIdx index).mapM fun (h, i) => substituteHeader i h := by
  induction headers generalizing index compiledHeaders with
  | nil =>
    cases compiled
    rfl
  | cons h headers ih =>
    unfold compileHeaders at compiled
    obtain ⟨key, hkey, compiled⟩ := exists_of_bind_eq_ok compiled
    obtain ⟨value, hvalue, compiled⟩ := exists_of_bind_eq_ok compiled
    obtain ⟨rest, hrest, compiled⟩ := exists_of_bind_eq_ok compiled
    cases compiled
    have hheader : substituteHeader index h = do
        let k ← key.materialize (.headerKey index)
        let v ← value.materialize (.headerValue index)
        return ⟨k, v⟩ := by
      rw [CompiledText.materialize_eq_substituteText hkey,
        CompiledText.materialize_eq_substituteText hvalue]
      rfl
    rw [List.zipIdx_cons, List.mapM_cons, ← ih hrest]
    dsimp only
    rw [hheader, materializeHeaders]
    simp only [bind_assoc, pure_bind]

/-- Filling in a compiled template is plain substitution. -/
theorem materialize_eq_substitute {template : MessageTemplate} {t : CompiledTemplate}
    (compiled : compile template = .ok t) : t.materialize = template.substitute := by
  unfold compile at compiled
  obtain ⟨key, hkey, compiled⟩ := exists_of_bind_eq_ok compiled
  obtain ⟨value, hvalue, compiled⟩ := exists_of_bind_eq_ok compiled
  obtain ⟨headers, hheaders, compiled⟩ := exists_of_bind_eq_ok compiled
  cases compiled
  unfold materialize MessageTemplate.substitute
  rw [← materializeOptional_eq_mapM hkey, ← materializeOptional_eq_mapM hvalue,
    ← materializeHeaders_eq_mapM hheaders]

end CompiledTemplate

/-! ## What is filled in where -/

namespace Drawing

variable {ε ε' α β : Type}

/-- A run of two parts that went well passes through a desk in between. -/
theorem exists_of_bind {x : Drawing ε α} {f : α → Drawing ε β} {b : β} {d d' : Desk}
    (h : (x >>= f).run.run d = (.ok b, d')) :
    ∃ a between, x.run.run d = (.ok a, between) ∧ (f a).run.run between = (.ok b, d') := by
  rw [run_bind] at h
  cases hx : x.run.run d with
  | mk made between =>
    rw [hx] at h
    cases made with
    | error e => cases h
    | ok a => exact ⟨a, between, rfl, h⟩

theorem run_of_adapt {g : ε → ε'} {x : Drawing ε α} {a : α} {d d' : Desk}
    (h : (ExceptT.adapt g x).run.run d = (.ok a, d')) : x.run.run d = (.ok a, d') := by
  have hadapt : (ExceptT.adapt g x).run.run d = ((x.run.run d).1.mapError g, (x.run.run d).2) := rfl
  rw [hadapt] at h
  cases hx : x.run.run d with
  | mk made after =>
    rw [hx] at h
    cases made with
    | error e => cases h
    | ok a' =>
      cases h
      rfl

theorem eq_of_pure {a b : α} {d d' : Desk} (h : (pure a : Drawing ε α).run.run d = (.ok b, d')) :
    b = a ∧ d' = d := by
  cases h
  exact ⟨rfl, rfl⟩

/-- A drawing yields this at some desk. -/
def Yields (x : Drawing ε α) (a : α) : Prop :=
  ∃ d d', x.run.run d = (.ok a, d')

theorem Yields.eq_of_pure {a b : α} (h : Yields (pure a : Drawing ε α) b) : b = a := by
  obtain ⟨d, d', h⟩ := h
  exact (Drawing.eq_of_pure h).1

/-- Two parts yield what the second does with what the first yields. -/
theorem Yields.of_bind {x : Drawing ε α} {f : α → Drawing ε β} {b : β} (h : Yields (x >>= f) b) :
    ∃ a, Yields x a ∧ Yields (f a) b := by
  obtain ⟨d, d', h⟩ := h
  obtain ⟨a, between, hx, hf⟩ := exists_of_bind h
  exact ⟨a, ⟨d, between, hx⟩, between, d', hf⟩

theorem Yields.of_adapt {g : ε → ε'} {x : Drawing ε α} {a : α}
    (h : Yields (ExceptT.adapt g x) a) : Yields x a := by
  obtain ⟨d, d', h⟩ := h
  exact ⟨d, d', run_of_adapt h⟩

/-- Members of a list yield members of a list, one each and in the same order. -/
theorem forall₂_of_mapM {f : α → Drawing ε β} {xs : List α} {ys : List β}
    (h : Yields (xs.mapM f) ys) : List.Forall₂ (fun x y => Yields (f x) y) xs ys := by
  induction xs generalizing ys with
  | nil =>
    rw [List.mapM_nil] at h
    obtain rfl := h.eq_of_pure
    exact .nil
  | cons x xs ih =>
    rw [List.mapM_cons] at h
    obtain ⟨y, hy, h⟩ := h.of_bind
    obtain ⟨rest, hrest, h⟩ := h.of_bind
    obtain rfl := h.eq_of_pure
    exact .cons hy (ih hrest)

theorem rel_of_mapM {f : α → Drawing ε β} {R : α → β → Prop}
    (hR : ∀ {x y}, Yields (f x) y → R x y) {x : Option α} {y : Option β}
    (h : Yields (x.mapM f) y) : Option.Rel R x y := by
  cases x with
  | none =>
    rw [Option.mapM_none] at h
    obtain rfl := h.eq_of_pure
    exact .none
  | some x =>
    rw [Option.mapM_some, map_eq_pure_bind] at h
    obtain ⟨b, hb, h⟩ := h.of_bind
    obtain rfl := h.eq_of_pure
    exact .some (hR hb)

end Drawing

open Drawing

/-- Segments without placeholders give the text that they print as. -/
theorem join_of_literals {segments : List Segment} {texts : List String}
    (literal : segments.filterMap Segment.placeholder? = [])
    (h : List.Forall₂ (fun s text => Yields (Segment.render s) text) segments texts) :
    String.join texts = String.ofList (printSegments segments) := by
  induction h with
  | nil => rfl
  | @cons segment text segments texts hsegment _ ih =>
    cases segment with
    | placeholder p => cases literal
    | literal t =>
      have htext : text = t := hsegment.eq_of_pure
      rw [String.join_cons, ih literal, printSegments_cons, String.ofList_append, htext,
        Segment.print, String.ofList_toList]

/-- What a text of a template at this place is turned into. -/
structure FillsIn (location : Location) (text out : String) : Prop where
  /-- It comes of substitution in the text. -/
  yields : Yields (substituteText location text) out
  /-- A text without placeholders stays what it is. -/
  literal : ∀ field, Field.parse text = .ok field → field.isLiteral = true → out = text

theorem fillsIn_of_yields {location : Location} {text out : String}
    (h : Yields (substituteText location text) out) : FillsIn location text out := by
  refine ⟨h, ?_⟩
  intro field parsed hliteral
  unfold substituteText at h
  rw [parsed] at h
  obtain ⟨texts, htexts, hout⟩ := h.of_adapt.of_bind
  obtain ⟨ls, hls, rfl⟩ := parse_eq_ok_iff.mp parsed
  have hnone : (segmentsOf ls).filterMap Segment.placeholder? = [] := by
    simpa [Field.isLiteral, Field.placeholderCount, Field.placeholders] using hliteral
  rw [hout.eq_of_pure, join_of_literals hnone (forall₂_of_mapM htexts), printSegments_segmentsOf,
    hls.print_eq, String.ofList_toList]

/-- A message is a template filled in: a key and a value are there just when the template has them,
and its headers are those of the template, one each and in the same order. -/
structure Message.Fills (m : Message) (template : MessageTemplate) : Prop where
  key : Option.Rel (FillsIn .key) template.key m.key
  value : Option.Rel (FillsIn .value) template.value m.value
  headers : List.Forall₂ (fun (h, i) out =>
    FillsIn (.headerKey i) h.key out.key ∧ FillsIn (.headerValue i) h.value out.value)
      template.headers.zipIdx m.headers

/-- A message that a template yields has the places of the template filled in. -/
theorem fills_of_yields {template : MessageTemplate} {m : Message}
    (h : Yields template.substitute m) : m.Fills template := by
  obtain ⟨key, hkey, h⟩ := h.of_bind
  obtain ⟨value, hvalue, h⟩ := h.of_bind
  obtain ⟨headers, hheaders, h⟩ := h.of_bind
  obtain rfl := h.eq_of_pure
  refine ⟨rel_of_mapM fillsIn_of_yields hkey, rel_of_mapM fillsIn_of_yields hvalue, ?_⟩
  refine (forall₂_of_mapM hheaders).imp ?_
  intro ⟨header, i⟩ out hout
  obtain ⟨headerKey, hheaderKey, hout⟩ := hout.of_bind
  obtain ⟨headerValue, hheaderValue, hout⟩ := hout.of_bind
  obtain rfl := hout.eq_of_pure
  exact ⟨fillsIn_of_yields hheaderKey, fillsIn_of_yields hheaderValue⟩

namespace CompiledTemplate

/-- Filling in a compiled template gives the same message or refusal as plain substitution, draws
the same identifiers and leaves the same context; and a message that comes of it has the shape of
the template and keeps the texts without placeholders. -/
theorem materializeIn_eq_substitute {template : MessageTemplate} {t : CompiledTemplate}
    (compiled : compile template = .ok t) (context : Context) (supply : UuidSupply) :
    t.materializeIn context supply = template.substitute.run.run { context, supply } ∧
      ∀ m, (t.materializeIn context supply).1 = .ok m → m.Fills template := by
  have hsame : t.materializeIn context supply =
      template.substitute.run.run { context, supply } := by
    rw [materializeIn, materialize_eq_substitute compiled]
  refine ⟨hsame, ?_⟩
  intro m made
  rw [hsame] at made
  exact fills_of_yields ⟨{ context, supply }, _, Prod.ext made rfl⟩

/-- The key draws an identifier, one header has no placeholder, and there is no value. -/
theorem materializeIn_eq_substitute_of_headers :
    let template : MessageTemplate :=
      ⟨some "\x7buuid\x7d", none,
        [⟨"plain", "\x7b[]\x7d"⟩, ⟨"n-\x7bcount\x7d", "\x7bcount:03d\x7d"⟩]⟩
    let context : Context := .make 7 ⟨0, 0, by decide, by decide, by decide, by decide⟩ true
    ∃ t m, compile template = .ok t ∧
      t.materializeIn context (.seeded 0) =
        template.substitute.run.run { context, supply := .seeded 0 } ∧
      (t.materializeIn context (.seeded 0)).1 = .ok m ∧
      m.headers = [⟨"plain", "\x7b[]\x7d"⟩, ⟨"n-7", "007"⟩] ∧ m.Fills template := by
  intro template context
  have hheaders : ((compile template).bind fun t =>
      (t.materializeIn context (.seeded 0)).1.map Message.headers) =
        .ok [⟨"plain", "\x7b[]\x7d"⟩, ⟨"n-7", "007"⟩] := by
    decide +kernel
  obtain ⟨t, compiled, hmap⟩ := exists_of_bind_eq_ok hheaders
  obtain ⟨hsame, hfills⟩ := materializeIn_eq_substitute compiled context (.seeded 0)
  cases made : (t.materializeIn context (.seeded 0)).1 with
  | error e =>
    rw [made] at hmap
    cases hmap
  | ok m =>
    rw [made] at hmap
    exact ⟨t, m, compiled, hsame, made, Except.ok.inj hmap, hfills m made⟩

end CompiledTemplate

end Courier.Template
