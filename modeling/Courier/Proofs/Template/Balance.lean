import Courier.Proofs.Template.Braceless
import Courier.Proofs.Template.Lossless
import Courier.Proofs.Template.Rendering

/-!
# Filling in keeps the braces of a text

The literal braces of a text that parses pair up, and no placeholder brings a brace along. So the
text that comes of filling in has just the literal braces, in the same order, and they pair up
there too.
-/

namespace Courier.Template

/-! ## Braces of literal text -/

/-- The literal text of segments. -/
def literalText (segments : List Segment) : List Char :=
  segments.flatMap (Segment.textWith fun _ => [])

theorem literalText_cons (s : Segment) (rest : List Segment) :
    literalText (s :: rest) = s.textWith (fun _ => []) ++ literalText rest :=
  List.flatMap_cons

/-- The brace that a lexeme is, if it is a literal one. -/
def Lexeme.brace? : Lexeme → Option Char
  | .opening => some '{'
  | .closing => some '}'
  | _ => none

/-- The only braces of a literal text are lexemes of their own. -/
theorem Lexeme.filter_textWith {l : Lexeme} {pos : Nat} {rest : List Char} (h : l.Fits pos rest) :
    (l.textWith fun _ => []).filter isBrace = l.brace?.toList := by
  cases l with
  | plain c => exact List.filter_cons_of_neg (by rw [h]; exact Bool.false_ne_true)
  | opening => rfl
  | closing => rfl
  | placeholder p => rfl

/-- The braces of the literal text are the literal braces. -/
theorem Divides.filter_literalText {cs : List Char} {ls : List Lexeme} (h : Divides cs ls) :
    (literalText (segmentsOf ls)).filter isBrace = ls.filterMap Lexeme.brace? := by
  rw [literalText, flatMap_textWith_segmentsOf, List.filter_flatMap,
    List.filterMap_eq_flatMap_toList]
  apply List.flatMap_congr
  intro l hl
  obtain ⟨before, after, rfl⟩ := List.append_of_mem hl
  exact Lexeme.filter_textWith (h.fits before l after rfl)

/-! ## Balance -/

/-- The braces of a text pair up. -/
structure BalancedText (cs : List Char) : Prop where
  /-- No front part of the text closes more braces than it opens. -/
  sane : ∀ front, front <+: cs → front.count '}' ≤ front.count '{'
  /-- The whole text closes as many braces as it opens. -/
  settled : cs.count '}' = cs.count '{'

/-- Braces of a text that are those of lexemes are as many as them. -/
theorem count_of_braces {cs : List Char} {ls : List Lexeme}
    (h : cs.filter isBrace = ls.filterMap Lexeme.brace?) :
    cs.count '{' = ls.count .opening ∧ cs.count '}' = ls.count .closing := by
  have hopening : ∀ l : Lexeme, (l.brace? == some '{') = (l == .opening) := by
    intro l
    cases l <;> rfl
  have hclosing : ∀ l : Lexeme, (l.brace? == some '}') = (l == .closing) := by
    intro l
    cases l <;> rfl
  rw [← List.count_filter (p := isBrace) rfl, ← List.count_filter (a := '}') (p := isBrace) rfl, h,
    List.count_filterMap, List.count_filterMap]
  simp only [hopening, hclosing, List.count, and_self]

/-- What has the braces of balanced lexemes is balanced, whatever stands between them. -/
theorem Balanced.balancedText {cs : List Char} {ls : List Lexeme} (balanced : Balanced ls)
    (h : cs.filter isBrace = ls.filterMap Lexeme.brace?) : BalancedText cs := by
  constructor
  case sane =>
    intro front hfront
    have hbraces : front.filter isBrace <+: ls.filterMap Lexeme.brace? :=
      h ▸ hfront.filter isBrace
    obtain ⟨front', hfront', heq⟩ := List.prefix_filterMap_iff.mp hbraces
    obtain ⟨hopening, hclosing⟩ := count_of_braces heq
    rw [hopening, hclosing]
    exact balanced.sane front' hfront'
  case settled =>
    obtain ⟨hopening, hclosing⟩ := count_of_braces h
    rw [hopening, hclosing]
    exact balanced.settled

/-! ## Texts of segments -/

/-- The texts of segments, one each, bring no brace but those of literal text, and these pair up. -/
structure KeepsBraces (segments : List Segment) (row : List String) : Prop where
  /-- What a placeholder comes to holds no brace. -/
  braceless : ∀ (k : Nat) p, segments[k]? = some (.placeholder p) →
    ∃ text, row[k]? = some text ∧ Braceless text.toList
  braces_eq : (String.join row).toList.filter isBrace = (literalText segments).filter isBrace
  balanced : BalancedText (String.join row).toList

/-- The formats of segments hold no brace. -/
def BracelessFormats (segments : List Segment) : Prop :=
  ∀ p, .placeholder p ∈ segments → ∀ f, p.format = some f → Braceless f.toList

section Spells

variable {c : Context} {series : Nat → Uuid} {n : Nat} {segments : List Segment} {row : List String}

/-- What a placeholder is filled in with has no braces. -/
theorem Spells.exists_braceless (h : Spells c series n segments row)
    (hf : BracelessFormats segments) {k : Nat} {p : Placeholder}
    (hp : segments[k]? = some (.placeholder p)) :
    ∃ text, row[k]? = some text ∧ Braceless text.toList := by
  obtain ⟨text, htext, hrender⟩ := h.exists_text hp
  exact ⟨text, htext, Directive.braceless_render hrender (hf p (List.mem_of_getElem? hp))⟩

/-- The braces of a rendered text are those of its literals, in their order. -/
theorem Spells.filter_join (h : Spells c series n segments row) (hf : BracelessFormats segments) :
    (String.join row).toList.filter isBrace = (literalText segments).filter isBrace := by
  induction h with
  | nil n => rfl
  | @cons n s text rest texts first later ih =>
    have hrest : BracelessFormats rest := fun p hp => hf p (List.mem_cons_of_mem _ hp)
    have hfirst : text.toList.filter isBrace = (s.textWith fun _ => []).filter isBrace := by
      cases s with
      | literal text' =>
        cases first
        rfl
      | placeholder p =>
        exact (Directive.braceless_render first (hf p List.mem_cons_self)).filter_eq_nil
    rw [String.join_cons, String.toList_append, List.filter_append, literalText_cons,
      List.filter_append, hfirst, ih hrest]

end Spells

/-! ## Compiled texts -/

/-- A division has no placeholder with a brace in its format. -/
theorem Divides.bracelessFormats {cs : List Char} {ls : List Lexeme} (h : Divides cs ls) :
    BracelessFormats (segmentsOf ls) := by
  intro p hp
  obtain ⟨i, hi⟩ := List.mem_iff_getElem?.mp hp
  exact (h.placeholder hi).2.2

namespace CompiledText

/-- What compiles was parsed. -/
theorem parse_of_compile {location : Location} {text : String} {t : CompiledText}
    (compiled : compile location text = .ok t) : Field.parse text = .ok t.field := by
  unfold compile at compiled
  split at compiled
  · cases compiled
  · rename_i hparse
    cases compiled
    exact hparse

/-- A text whose formats are all in order can be filled in. -/
theorem exists_spells_of_check {t : CompiledText} (valid : t.check = .ok ()) (location : Location)
    (context : Context) (supply : UuidSupply) :
    ∃ row desk, (t.materialize location).run.run { context, supply } =
        (.ok (String.join row), desk) ∧
      Spells context supply.series supply.drawn t.field.segments row := by
  have hend := t.ends_materialize location { context, supply }
  have hvalid : (t.at location).validate = .ok () := by
    show t.check.mapError _ = _
    rw [valid]
    rfl
  rw [hvalid] at hend
  cases made : (t.materialize location).run.run { context, supply } with
  | mk outcome desk =>
    rw [made] at hend
    cases outcome with
    | error e => cases hend
    | ok text =>
      obtain ⟨⟨rows, hrows⟩, -⟩ := writes_of_materialize made
      cases hrows with
      | @cons _ _ row _ _ _ first later => exact ⟨row, desk, rfl, first⟩

/-- A text that parses and whose formats are all in order is filled in, for every message, without
any change to its braces: no placeholder comes to a text with a brace, so the braces are those of
the literal text, and they pair up. -/
theorem keepsBraces_of_check {location : Location} {text : String} {t : CompiledText}
    (compiled : compile location text = .ok t) (valid : t.check = .ok ()) (context : Context)
    (supply : UuidSupply) :
    ∃ row desk, (t.materialize location).run.run { context, supply } =
        (.ok (String.join row), desk) ∧
      Spells context supply.series supply.drawn t.field.segments row ∧
      KeepsBraces t.field.segments row := by
  obtain ⟨ls, hls, hfield⟩ := parse_eq_ok_iff.mp (parse_of_compile compiled)
  obtain ⟨row, desk, made, spells⟩ := exists_spells_of_check valid location context supply
  have hsegments : t.field.segments = segmentsOf ls := by rw [hfield]
  have hformats : BracelessFormats t.field.segments := hsegments ▸ hls.bracelessFormats
  have hbraces := spells.filter_join hformats
  refine ⟨row, desk, made, spells, ?_⟩
  constructor
  case braceless => exact fun k p hp => spells.exists_braceless hformats hp
  case braces_eq => exact hbraces
  case balanced =>
    rw [hsegments, hls.filter_literalText] at hbraces
    exact hls.balanced.balancedText hbraces

/-- Placeholders of all kinds inside three pairs of braces. -/
theorem keepsBraces_of_check_nested :
    let text := "\x7b\"id\":\"\x7buuid\x7d\",\"log\":" ++
      "[\x7b\"at\":\x7btimestamp:[on] MMM x\x7d\x7d,\x7b\"n\":\x7bcount:3d\x7d\x7d]\x7d"
    let context : Context :=
      .make 7 ⟨1709820309, 0, by decide, by decide, by decide, by decide⟩ true
    ∃ t row desk, compile .value text = .ok t ∧ t.check = .ok () ∧
      (t.materialize .value).run.run { context, supply := .seeded 0 } =
        (.ok (String.join row), desk) ∧
      KeepsBraces t.field.segments row ∧
      (String.join row).toList.filter isBrace = ['{', '{', '}', '{', '}', '}'] := by
  intro text context
  have facts : (compile .value text).map (fun t =>
      (t.check, (literalText t.field.segments).filter isBrace)) =
        .ok (.ok (), ['{', '{', '}', '{', '}', '}']) := by
    decide +kernel
  cases compiled : compile .value text with
  | error e =>
    rw [compiled] at facts
    cases facts
  | ok t =>
    rw [compiled] at facts
    obtain ⟨valid, literal⟩ := Prod.mk.inj (Except.ok.inj facts)
    obtain ⟨row, desk, made, -, keeps⟩ := keepsBraces_of_check compiled valid context (.seeded 0)
    exact ⟨t, row, desk, rfl, valid, made, keeps, keeps.braces_eq.trans literal⟩

end CompiledText

end Courier.Template
