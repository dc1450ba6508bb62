import Courier.Template.Fault

/-!
# A template is refused for its first fault

`compile` refuses a template for the first of its texts that cannot be split, and `validate` then
for the first of its formats that a placeholder cannot take. Both go through the texts in one order,
that of `MessageTemplate.texts`.
-/

namespace Courier.Template

/-! ## Refusals -/

section Refusal

variable {ε ε' α β : Type}

theorem refusal?_eq_some {x : Except ε α} {e : ε} : refusal? x = some e ↔ x = .error e := by
  cases x <;> simp [refusal?]

theorem refusal?_ne_none {x : Except ε α} : ¬refusal? x = none ↔ ∃ e, x = .error e := by
  cases x <;> simp [refusal?]

@[simp] theorem refusal?_map (x : Except ε α) (f : α → β) : refusal? (f <$> x) = refusal? x := by
  cases x <;> rfl

@[simp] theorem refusal?_mapError (x : Except ε α) (f : ε → ε') :
    refusal? (x.mapError f) = (refusal? x).map f := by
  cases x <;> rfl

/-- What succeeds in two steps succeeds in each. -/
theorem exists_of_bind_eq_ok {x : Except ε α} {f : α → Except ε β} {b : β}
    (h : x >>= f = .ok b) : ∃ a, x = .ok a ∧ f a = .ok b := by
  cases x with
  | error e => cases h
  | ok a => exact ⟨a, rfl, h⟩

/-- Of two things in a row the first is refused first. -/
theorem refusal?_seq (x : Except ε α) (f : α → Except ε β) (second : Option ε)
    (h : ∀ a, x = .ok a → refusal? (f a) = second) :
    refusal? (x >>= f) = (refusal? x).or second := by
  cases x with
  | error e => rfl
  | ok a => exact h a rfl

/-- Of many things in a row the first that is refused on its own is refused. -/
theorem refusal?_forM (check : α → Except ε Unit) (xs : List α) :
    refusal? (forM xs check) = xs.findSome? (refusal? ∘ check) := by
  induction xs with
  | nil => rfl
  | cons x xs ih =>
    rw [List.forM_cons, refusal?_seq _ _ _ fun _ _ => ih, List.findSome?_cons, Function.comp_apply]
    cases refusal? (check x) <;> rfl

/-- The same with results. -/
theorem refusal?_mapM (f : α → Except ε β) (xs : List α) :
    refusal? (xs.mapM f) = xs.findSome? (refusal? ∘ f) := by
  induction xs with
  | nil => rfl
  | cons x xs ih =>
    rw [List.mapM_cons, List.findSome?_cons, Function.comp_apply]
    cases hx : f x with
    | error e => rfl
    | ok y =>
      rw [← ih]
      cases xs.mapM f <;> rfl

/-- What is told of the results of a list can be told of the list. -/
theorem map_of_mapM {γ : Type} {f : α → Except ε β} {g : β → γ} {h : α → γ}
    (agree : ∀ x y, f x = .ok y → g y = h x) {xs : List α} {ys : List β}
    (made : xs.mapM f = .ok ys) : ys.map g = xs.map h := by
  induction xs generalizing ys with
  | nil =>
    cases made
    rfl
  | cons x xs ih =>
    rw [List.mapM_cons] at made
    obtain ⟨y, hy, made⟩ := exists_of_bind_eq_ok made
    obtain ⟨rest, hrest, made⟩ := exists_of_bind_eq_ok made
    cases made
    rw [List.map_cons, List.map_cons, agree x y hy, ih hrest]

end Refusal

/-! ## Where there are faults -/

namespace MessageTemplate

/-- A template has such a fault when one of its texts cannot be parsed. -/
theorem parseFaults_ne_nil_iff (t : MessageTemplate) :
    t.parseFaults ≠ [] ↔ ∃ p ∈ t.texts, ∃ e, Field.parse p.2 = .error e := by
  simp only [parseFaults, ne_eq, List.filterMap_eq_nil_iff, Option.map_eq_none_iff,
    Classical.not_forall, refusal?_ne_none, exists_prop]

/-- A template has such a fault when a placeholder of a parsed text has a format that is refused. -/
theorem formatFaults_ne_nil_iff (t : MessageTemplate) :
    t.formatFaults ≠ [] ↔ ∃ p ∈ t.texts, ∃ f, Field.parse p.2 = .ok f ∧
      ∃ q ∈ f.placeholders, ∃ e, Directive.classify q.name q.format = .error e := by
  have htext : ∀ p : Location × String, Template.formatFaults p.1 p.2 ≠ [] ↔
      ∃ f, Field.parse p.2 = .ok f ∧
        ∃ q ∈ f.placeholders, ∃ e, Directive.classify q.name q.format = .error e := by
    intro p
    unfold Template.formatFaults
    cases Field.parse p.2 with
    | error e => simp
    | ok f =>
      simp only [ne_eq, List.filterMap_eq_nil_iff, Placeholder.fault?, Option.map_eq_none_iff,
        Classical.not_forall, refusal?_ne_none, exists_prop, Except.ok.injEq, exists_eq_left']
  simp only [formatFaults, ne_eq, List.flatMap_eq_nil_iff, Classical.not_forall, exists_prop]
  exact exists_congr fun p => and_congr_right fun _ => htext p

end MessageTemplate

/-! ## Texts -/

namespace CompiledText

/-- A text is refused for what is wrong with its syntax, and for nothing else. -/
theorem refusal?_compile (location : Location) (text : String) :
    refusal? (compile location text) = (refusal? (Field.parse text)).map (.parse location) := by
  unfold compile
  cases Field.parse text <;> rfl

/-- The directives are checked as the formats of the placeholders are judged. -/
theorem refusal?_check (t : CompiledText) :
    refusal? t.check = t.field.placeholders.findSome? (refusal? ∘ Placeholder.directive) := by
  have hdrop : (refusal? ∘ fun d : Except FormatError Directive => d.map fun _ => ()) =
      refusal? := funext fun d => refusal?_map d fun _ => ()
  have hcheck : t.check = forM t.directives fun directive => directive.map fun _ => () := rfl
  rw [hcheck, refusal?_forM, hdrop, t.directives_eq, List.findSome?_map]

/-- A text is refused for the first of its formats that its placeholder cannot take. -/
theorem refusal?_validate {location : Location} {text : String} {t : CompiledText}
    (compiled : compile location text = .ok t) :
    refusal? (t.at location).validate = (formatFaults location text).head? := by
  have hvalidate : refusal? (t.at location).validate =
      (refusal? t.check).map (TemplateError.format location) :=
    refusal?_mapError t.check (TemplateError.format location)
  unfold compile at compiled
  unfold formatFaults
  cases hparse : Field.parse text with
  | error e =>
    rw [hparse] at compiled
    cases compiled
  | ok field =>
    rw [hparse] at compiled
    cases compiled
    rw [hvalidate, refusal?_check, List.map_findSome?, List.head?_filterMap]
    rfl

end CompiledText

/-! ## Templates -/

namespace CompiledTemplate

/-- Compiles the text at a place. -/
def compileAt (p : Location × String) : Except TemplateError CompiledField :=
  CompiledText.at p.1 <$> CompiledText.compile p.1 p.2

theorem refusal?_compileAt (p : Location × String) :
    refusal? (compileAt p) = (refusal? (Field.parse p.2)).map (.parse p.1) := by
  rw [compileAt, refusal?_map, CompiledText.refusal?_compile]

/-- A compiled text is refused for the first of the faults of its formats. -/
theorem refusal?_validate_compileAt {p : Location × String} {f : CompiledField}
    (compiled : compileAt p = .ok f) :
    refusal? f.validate = (formatFaults p.1 p.2).head? := by
  unfold compileAt at compiled
  cases htext : CompiledText.compile p.1 p.2 with
  | error e =>
    rw [htext] at compiled
    cases compiled
  | ok t =>
    rw [htext] at compiled
    cases compiled
    exact CompiledText.refusal?_validate htext

/-- The headers' texts are compiled one after the other. -/
theorem map_compileHeaders (headers : List Header) (index : Nat) :
    (fun compiled => (compiled.zipIdx index).flatMap fun ((k, v), i) =>
        [k.at (.headerKey i), v.at (.headerValue i)]) <$> compileHeaders index headers =
      ((headers.zipIdx index).flatMap fun (h, i) =>
        [(Location.headerKey i, h.key), (.headerValue i, h.value)]).mapM compileAt := by
  induction headers generalizing index with
  | nil => rfl
  | cons h headers ih =>
    rw [List.zipIdx_cons, List.flatMap_cons, List.cons_append, List.cons_append, List.nil_append,
      List.mapM_cons, List.mapM_cons, ← ih (index + 1), compileHeaders, compileAt, compileAt]
    cases CompiledText.compile (.headerKey index) h.key with
    | error e => rfl
    | ok key =>
      cases CompiledText.compile (.headerValue index) h.value with
      | error e => rfl
      | ok value => cases compileHeaders (index + 1) headers <;> rfl

theorem map_compileOptional (location : Location) (text : Option String) :
    (fun t : Option CompiledText => (t.map (CompiledText.at location)).toList) <$>
        compileOptional location text =
      (text.map (location, ·)).toList.mapM compileAt := by
  cases text with
  | none => rfl
  | some s =>
    rw [Option.map_some, Option.toList_some, List.mapM_cons, compileOptional, compileAt]
    cases CompiledText.compile location s <;> rfl

/-- A template is compiled text by text. -/
theorem map_compile (t : MessageTemplate) :
    fields <$> compile t = t.texts.mapM compileAt := by
  rw [MessageTemplate.texts, List.mapM_append, List.mapM_append, ← map_compileOptional,
    ← map_compileOptional, ← map_compileHeaders, compile]
  cases compileOptional .key t.key with
  | error e => rfl
  | ok key =>
    cases compileOptional .value t.value with
    | error e => rfl
    | ok value => cases compileHeaders 0 t.headers <;> rfl

/-- A template is refused for the first of its texts that cannot be split. -/
theorem refusal?_compile (t : MessageTemplate) : refusal? (compile t) = t.parseFaults.head? := by
  rw [← refusal?_map _ fields, map_compile, refusal?_mapM, MessageTemplate.parseFaults,
    List.head?_filterMap]
  congr
  funext ⟨location, text⟩
  exact refusal?_compileAt (location, text)

/-- A template whose texts are split is refused for the first format that its placeholder cannot
take. -/
theorem refusal?_validate {t : MessageTemplate} {c : CompiledTemplate}
    (compiled : compile t = .ok c) : refusal? c.validate = t.formatFaults.head? := by
  have made : t.texts.mapM compileAt = .ok c.fields := by
    rw [← map_compile, compiled]
    rfl
  have hfaults := congrArg (List.findSome? id)
    (map_of_mapM (fun _ _ => refusal?_validate_compileAt) made)
  rw [List.findSome?_map, List.findSome?_map] at hfaults
  rw [validate, List.forM_eq_forM, refusal?_forM, MessageTemplate.formatFaults,
    List.flatMap_def, List.head?_flatten, List.findSome?_map]
  exact hfaults

end CompiledTemplate

end Courier.Template
