import Courier.Template.Rendering
import Courier.Proofs.Template.Directive
import Courier.Proofs.Template.Substitution

/-!
# Messages are spelt out segment by segment

A message that is made of a compiled template is spelt out in its context, and uses up one
identifier for each `{uuid}` of the template, whatever the context. So what stands at a placeholder
is known from the index and the instant of the message and from the number of the identifier that
came first.
-/

namespace Courier.Template

/-! ## Segments in a row -/

@[simp] theorem drawsOf_append (xs ys : List Segment) :
    drawsOf (xs ++ ys) = drawsOf xs + drawsOf ys := by
  induction xs with
  | nil => simp [drawsOf]
  | cons x xs ih => simp [drawsOf, ih, Nat.add_assoc]

/-- The identifiers for a segment come after those for all before it. -/
theorem drawsOf_take_add_le {segments : List Segment} {k : Nat} {s : Segment}
    (hs : segments[k]? = some s) : drawsOf (segments.take k) + s.draws ≤ drawsOf segments := by
  induction segments generalizing k with
  | nil => simp at hs
  | cons first rest ih =>
    cases k with
    | zero =>
      have hsame : first = s := by simpa using hs
      subst hsame
      rw [List.take_zero, drawsOf, drawsOf]
      omega
    | succ k =>
      have hle := ih (k := k) (by simpa using hs)
      rw [List.take_succ_cons, drawsOf, drawsOf]
      omega

section DrawsAt

variable {t : CompiledTemplate} {k k' : Nat}

/-- The identifier of a `{uuid}` is among those of its message. -/
theorem CompiledTemplate.DrawsAt.lt_draws (h : t.DrawsAt k) :
    drawsOf (t.segments.take k) < t.draws := by
  obtain ⟨p, hp, name⟩ := h
  have hle := drawsOf_take_add_le hp
  rw [Segment.draws, name] at hle
  exact hle

/-- The identifier of a `{uuid}` comes before that of one further on. -/
theorem CompiledTemplate.DrawsAt.lt_of_lt (h : t.DrawsAt k) (hlt : k < k') :
    drawsOf (t.segments.take k) < drawsOf (t.segments.take k') := by
  obtain ⟨p, hp, name⟩ := h
  have hp' : (t.segments.take k')[k]? = some (.placeholder p) := by
    rw [List.getElem?_take, if_pos hlt, hp]
  have hle := drawsOf_take_add_le hp'
  rw [List.take_take, Nat.min_eq_left (Nat.le_of_lt hlt), Segment.draws, name] at hle
  exact hle

end DrawsAt

section Spells

variable {c : Context} {series : Nat → Uuid}

theorem Spells.append {n : Nat} {xs ys : List Segment} {texts texts' : List String}
    (front : Spells c series n xs texts) (back : Spells c series (n + drawsOf xs) ys texts') :
    Spells c series n (xs ++ ys) (texts ++ texts') := by
  induction front with
  | nil n => exact back
  | @cons n s _ rest _ first _ ih =>
    have hdraws : n + drawsOf (s :: rest) = n + s.draws + drawsOf rest := by
      rw [drawsOf, Nat.add_assoc]
    rw [hdraws] at back
    exact .cons first (ih back)

/-- Each segment has its own text, spelt with the first identifier that those before it leave. -/
theorem Spells.exists_text {n k : Nat} {segments : List Segment} {texts : List String} {s : Segment}
    (h : Spells c series n segments texts) (hs : segments[k]? = some s) :
    ∃ text, texts[k]? = some text ∧
      s.text c (series (n + drawsOf (segments.take k))) = .ok text := by
  induction h generalizing k with
  | nil n => simp at hs
  | @cons n s' text rest texts first _ ih =>
    cases k with
    | zero =>
      have hsame : s' = s := by simpa using hs
      subst hsame
      exact ⟨text, rfl, first⟩
    | succ k =>
      have hrest : rest[k]? = some s := by simpa using hs
      obtain ⟨text', htext, hspelt⟩ := ih hrest
      refine ⟨text', htext, ?_⟩
      rw [List.take_succ_cons, drawsOf, ← Nat.add_assoc]
      exact hspelt

theorem SpellsOut.append {n : Nat} {fs gs : List CompiledField}
    {texts texts' : List (Location × String)} {rows rows' : List (List String)}
    (front : SpellsOut c series n fs texts rows)
    (back : SpellsOut c series (n + drawsOf (fs.flatMap (·.field.segments))) gs texts' rows') :
    SpellsOut c series n (fs ++ gs) (texts ++ texts') (rows ++ rows') := by
  induction front with
  | nil n => exact back
  | @cons n f _ rest _ _ first _ ih =>
    rw [List.flatMap_cons, drawsOf_append, ← Nat.add_assoc] at back
    exact .cons first (ih back)

/-- The texts of fields in a row are those of all their segments in a row. -/
theorem SpellsOut.flatten {n : Nat} {fields : List CompiledField} {texts : List (Location × String)}
    {rows : List (List String)} (h : SpellsOut c series n fields texts rows) :
    Spells c series n (fields.flatMap (·.field.segments)) rows.flatten := by
  induction h with
  | nil n => exact .nil n
  | cons first _ ih =>
    rw [List.flatMap_cons, List.flatten_cons]
    exact first.append ih

end Spells

/-! ## What is drawn -/

/-- The desk after `n` identifiers were drawn for the same message. -/
structure Desk.Later (d : Desk) (n : Nat) (d' : Desk) : Prop where
  index_eq : d'.context.index = d.context.index
  instant_eq : d'.context.instant = d.context.instant
  series_eq : d'.supply.series = d.supply.series
  drawn_eq : d'.supply.drawn = d.supply.drawn + n

namespace Desk

theorem Later.refl (d : Desk) : d.Later 0 d :=
  ⟨rfl, rfl, rfl, rfl⟩

/-- Identifiers drawn one after the other add up. -/
theorem Later.trans {a b c : Desk} {m n : Nat} (ab : a.Later m b) (bc : b.Later n c) :
    a.Later (m + n) c := by
  have hdrawn : c.supply.drawn = a.supply.drawn + (m + n) := by
    rw [bc.drawn_eq, ab.drawn_eq, Nat.add_assoc]
  exact ⟨bc.index_eq.trans ab.index_eq, bc.instant_eq.trans ab.instant_eq,
    bc.series_eq.trans ab.series_eq, hdrawn⟩

/-- A placeholder has the same value throughout a message, but for the identifier. -/
theorem Later.value_eq {d d' : Desk} {n : Nat} (h : d.Later n d') (id : Uuid)
    (name : PlaceholderName) : d'.context.value id name = d.context.value id name := by
  cases name with
  | uuid => rfl
  | count => exact congrArg Value.count h.index_eq
  | timestamp => exact congrArg Value.timestamp h.instant_eq

theorem Later.text_eq {d d' : Desk} {n : Nat} (h : d.Later n d') (id : Uuid) (s : Segment) :
    s.text d'.context id = s.text d.context id := by
  cases s with
  | literal text => rfl
  | placeholder p => rw [Segment.text, Segment.text, h.value_eq]

/-- What is spelt at a later desk is spelt at an earlier one, from the same series. -/
theorem Later.spells {d d' : Desk} {n k : Nat} {segments : List Segment} {texts : List String}
    (h : d.Later n d') (spells : Spells d'.context d'.supply.series k segments texts) :
    Spells d.context d.supply.series k segments texts := by
  induction spells with
  | nil k => exact .nil k
  | cons first _ ih =>
    rw [h.text_eq, h.series_eq] at first
    exact .cons first ih

theorem Later.spellsOut {d d' : Desk} {n k : Nat} {fields : List CompiledField}
    {texts : List (Location × String)} {rows : List (List String)} (h : d.Later n d')
    (spells : SpellsOut d'.context d'.supply.series k fields texts rows) :
    SpellsOut d.context d.supply.series k fields texts rows := by
  induction spells with
  | nil k => exact .nil k
  | cons first _ ih => exact .cons (h.spells first) ih

/-- The value of a placeholder comes from the context and the next identifier. -/
theorem value_run (name : PlaceholderName) (d : Desk) :
    ∃ d', (value name).run d = (d.context.value (d.supply.series d.supply.drawn) name, d') ∧
      d.Later name.draws d' := by
  cases name with
  | uuid => exact ⟨_, rfl, rfl, rfl, rfl, rfl⟩
  | count => exact ⟨d, rfl, .refl d⟩
  | timestamp => exact ⟨d, rfl, .refl d⟩

/-- An occurrence of a placeholder is written with the next identifier. -/
theorem render_run_fst (name : PlaceholderName) (format : Option String) (d : Desk) :
    ((render name format).run.run d).1 =
      Directive.render name format (d.context.value (d.supply.series d.supply.drawn) name) := by
  unfold render Directive.render
  cases Directive.classify name format with
  | error e => rfl
  | ok directive => cases name <;> rfl

end Desk

open Drawing

/-! ## What is spelt -/

/-- A segment is rendered with the next identifier. -/
theorem Segment.later_of_render {s : Segment} {text : String} {d d' : Desk}
    (h : (Segment.render s).run.run d = (.ok text, d')) :
    s.text d.context (d.supply.series d.supply.drawn) = .ok text ∧ d.Later s.draws d' := by
  cases s with
  | literal text' =>
    obtain ⟨rfl, rfl⟩ := eq_of_pure h
    exact ⟨rfl, .refl _⟩
  | placeholder p =>
    cases judged : p.directive with
    | error e =>
      rw [Segment.render_of_error judged] at h
      cases h
    | ok directive =>
      rw [Segment.render_of_ok judged] at h
      obtain ⟨between, hvalue, hlater⟩ := Desk.value_run p.name d
      have hrun : (liftM (Desk.renderWith p.name directive) : Drawing FormatError String).run.run d =
          (.ok (directive.apply ((Desk.value p.name).run d).1), ((Desk.value p.name).run d).2) := rfl
      rw [hrun, hvalue] at h
      cases h
      have htext : Segment.text d.context (d.supply.series d.supply.drawn) (.placeholder p) =
          p.directive.map (·.apply (d.context.value (d.supply.series d.supply.drawn) p.name)) := rfl
      rw [htext, judged]
      exact ⟨rfl, hlater⟩

/-- Segments rendered one after the other spell their texts and draw one identifier for each
`{uuid}`. -/
theorem spells_of_mapM {segments : List Segment} {texts : List String} {d d' : Desk}
    (h : (segments.mapM Segment.render).run.run d = (.ok texts, d')) :
    Spells d.context d.supply.series d.supply.drawn segments texts ∧
      d.Later (drawsOf segments) d' := by
  induction segments generalizing texts d with
  | nil =>
    rw [List.mapM_nil] at h
    obtain ⟨rfl, rfl⟩ := eq_of_pure h
    exact ⟨.nil _, .refl _⟩
  | cons s rest ih =>
    rw [List.mapM_cons] at h
    obtain ⟨text, between, htext, h⟩ := exists_of_bind h
    obtain ⟨texts', after, htexts, h⟩ := exists_of_bind h
    obtain ⟨rfl, rfl⟩ := eq_of_pure h
    obtain ⟨first, hfirst⟩ := Segment.later_of_render htext
    obtain ⟨later, hlater⟩ := ih htexts
    rw [hfirst.drawn_eq] at later
    exact ⟨.cons first (hfirst.spells later), hfirst.trans hlater⟩

/-- Fields in a row come to texts, one after the other. -/
def Desk.Writes (d : Desk) (fields : List CompiledField) (texts : List (Location × String))
    (d' : Desk) : Prop :=
  (∃ rows, SpellsOut d.context d.supply.series d.supply.drawn fields texts rows) ∧
    d.Later (drawsOf (fields.flatMap (·.field.segments))) d'

theorem Desk.Writes.nil (d : Desk) : d.Writes [] [] d :=
  ⟨⟨[], .nil _⟩, .refl d⟩

/-- Fields are written one after the other. -/
theorem Desk.Writes.append {a b c : Desk} {fs gs : List CompiledField}
    {texts texts' : List (Location × String)} (front : a.Writes fs texts b)
    (back : b.Writes gs texts' c) : a.Writes (fs ++ gs) (texts ++ texts') c := by
  obtain ⟨⟨rows, hrows⟩, hfront⟩ := front
  obtain ⟨⟨rows', hrows'⟩, hback⟩ := back
  rw [hfront.drawn_eq] at hrows'
  refine ⟨⟨rows ++ rows', hrows.append (hfront.spellsOut hrows')⟩, ?_⟩
  rw [List.flatMap_append, drawsOf_append]
  exact hfront.trans hback

theorem CompiledText.writes_of_materialize {t : CompiledText} {location : Location} {text : String}
    {d d' : Desk} (h : (t.materialize location).run.run d = (.ok text, d')) :
    d.Writes [t.at location] [(location, text)] d' := by
  obtain ⟨field, directives, rfl⟩ := t
  obtain ⟨row, between, hrow, h⟩ := exists_of_bind (run_of_adapt h)
  obtain ⟨rfl, rfl⟩ := eq_of_pure h
  have hmapM := CompiledText.renderSegments_eq_mapM field.segments
  dsimp only at hrow
  rw [Field.placeholders, hmapM] at hrow
  obtain ⟨hspells, hlater⟩ := spells_of_mapM hrow
  refine ⟨⟨[row], .cons hspells (.nil _)⟩, ?_⟩
  rw [List.flatMap_singleton]
  exact hlater

namespace CompiledTemplate

theorem writes_of_materializeOptional {location : Location} {t : Option CompiledText}
    {text : Option String} {d d' : Desk}
    (h : (materializeOptional location t).run.run d = (.ok text, d')) :
    d.Writes (t.map (CompiledText.at location)).toList (text.map (location, ·)).toList d' := by
  cases t with
  | none =>
    obtain ⟨rfl, rfl⟩ := eq_of_pure h
    exact .nil _
  | some t =>
    obtain ⟨out, between, hout, h⟩ := exists_of_bind h
    obtain ⟨rfl, rfl⟩ := eq_of_pure h
    exact CompiledText.writes_of_materialize hout

theorem writes_of_materializeHeaders {headers : List (CompiledText × CompiledText)} {index : Nat}
    {out : List Header} {d d' : Desk}
    (h : (materializeHeaders index headers).run.run d = (.ok out, d')) :
    d.Writes ((headers.zipIdx index).flatMap fun ((k, v), i) =>
        [k.at (.headerKey i), v.at (.headerValue i)])
      ((out.zipIdx index).flatMap fun (h, i) => [(.headerKey i, h.key), (.headerValue i, h.value)])
      d' := by
  induction headers generalizing index out d with
  | nil =>
    obtain ⟨rfl, rfl⟩ := eq_of_pure h
    exact .nil _
  | cons header headers ih =>
    obtain ⟨k, v⟩ := header
    obtain ⟨key, afterKey, hkey, h⟩ := exists_of_bind h
    obtain ⟨value, afterValue, hvalue, h⟩ := exists_of_bind h
    obtain ⟨rest, last, hrest, h⟩ := exists_of_bind h
    obtain ⟨rfl, rfl⟩ := eq_of_pure h
    have hheader := (CompiledText.writes_of_materialize hkey).append
      (CompiledText.writes_of_materialize hvalue)
    exact hheader.append (ih hrest)

/-- A message that is made is spelt out in its context, and leaves the supply after as many
identifiers as there are `{uuid}` in the template. -/
theorem spelt_of_materializeIn {t : CompiledTemplate} {context : Context} {supply : UuidSupply}
    {m : Message} {desk : Desk} (made : t.materializeIn context supply = (.ok m, desk)) :
    (∃ rows, t.Spelt context supply.series supply.drawn m rows) ∧
      desk.supply = supply.skip t.draws := by
  obtain ⟨key, afterKey, hkey, h⟩ := exists_of_bind made
  obtain ⟨value, afterValue, hvalue, h⟩ := exists_of_bind h
  obtain ⟨headers, last, hheaders, h⟩ := exists_of_bind h
  obtain ⟨rfl, rfl⟩ := eq_of_pure h
  have hwrites := ((writes_of_materializeOptional hkey).append
    (writes_of_materializeOptional hvalue)).append (writes_of_materializeHeaders hheaders)
  obtain ⟨hrows, hlater⟩ := hwrites
  refine ⟨hrows, ?_⟩
  have hseries : desk.supply.series = supply.series := hlater.series_eq
  have hdrawn : desk.supply.drawn = supply.drawn + t.draws := hlater.drawn_eq
  rw [UuidSupply.skip, ← hseries, ← hdrawn]

end CompiledTemplate

/-! ## What placeholders come to -/

namespace Segment

/-- A count is written plainly or padded with zeros, and in both forms denotes the index. -/
theorem text_count {c : Context} {id : Uuid} {p : Placeholder} {text : String}
    (name : p.name = .count) (h : Segment.text c id (.placeholder p) = .ok text) :
    (text = String.ofList (Decimal.digits c.index) ∨
        ∃ width ≤ Directive.maxWidth, text = String.ofList (Decimal.padded width c.index)) ∧
      Decimal.read? text.toList = some c.index := by
  have hrender : (Directive.classify .count p.format).map (·.apply (.count c.index)) = .ok text := by
    rw [Segment.text, Directive.render, name] at h
    exact h
  have hform : text = String.ofList (Decimal.digits c.index) ∨
      ∃ width ≤ Directive.maxWidth, text = String.ofList (Decimal.padded width c.index) := by
    cases hclass : Directive.classify .count p.format with
    | error e =>
      rw [hclass] at hrender
      cases hrender
    | ok directive =>
      rw [hclass] at hrender
      generalize p.format = format at hclass
      cases Directive.classify_eq_iff.mp hclass with
      | noFormat =>
        cases hrender
        exact Or.inl rfl
      | width _ _ fits =>
        cases hrender
        exact Or.inr ⟨_, fits, rfl⟩
      -- Date patterns are for timestamps.
      | date _ _ dates => cases dates
  refine ⟨hform, ?_⟩
  rcases hform with rfl | ⟨width, -, rfl⟩
  · rw [String.toList_ofList, Decimal.read?_digits]
  · rw [String.toList_ofList, Decimal.read?_padded]

/-- A timestamp is the instant of the message as its format asks. -/
theorem text_timestamp {c : Context} {id : Uuid} {p : Placeholder} {text : String}
    (name : p.name = .timestamp) (h : Segment.text c id (.placeholder p) = .ok text) :
    Directive.render .timestamp p.format (.timestamp c.instant) = .ok text := by
  rw [Segment.text, name] at h
  exact h

/-- An identifier has no other form than the standard one. -/
theorem text_uuid {c : Context} {id : Uuid} {p : Placeholder} {text : String}
    (name : p.name = .uuid) (h : Segment.text c id (.placeholder p) = .ok text) :
    text = String.ofList id.hyphenated := by
  have hrender : (Directive.classify .uuid p.format).map (·.apply (.uuid id)) = .ok text := by
    rw [Segment.text, Directive.render, name] at h
    exact h
  cases hclass : Directive.classify .uuid p.format with
  | error e =>
    rw [hclass] at hrender
    cases hrender
  | ok directive =>
    rw [hclass] at hrender
    generalize p.format = format at hclass
    cases Directive.classify_eq_iff.mp hclass with
    | noFormat =>
      have htext : Directive.apply .standard (.uuid id) = text := Except.ok.inj hrender
      rw [← htext]
      rfl
    | width _ counts _ => cases counts
    | date _ _ dates => cases dates

end Segment

end Courier.Template
