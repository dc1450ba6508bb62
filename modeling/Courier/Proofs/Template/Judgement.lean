import Courier.Proofs.Template.Fault

/-!
# Validation foretells how messages are made

How the making of a message ends hangs on the formats of its template alone: neither on the context
nor on the supply of identifiers. It ends as `validate` says.
-/

namespace Courier.Template

/-! ## Drawings with a settled end -/

namespace Drawing

variable {ε α β : Type}

theorem run_bind (x : Drawing ε α) (f : α → Drawing ε β) (d : Desk) :
    (x >>= f).run.run d = match x.run.run d with
      | (.ok a, d') => (f a).run.run d'
      | (.error e, d') => (.error e, d') := by
  rw [ExceptT.run_bind, StateT.run_bind]
  cases h : x.run.run d with
  | mk made d' => cases made <;> rfl

/-- A drawing ends like this at every desk. -/
def Ends (x : Drawing ε α) (v : Except ε Unit) : Prop :=
  ∀ d, (x.run.run d).1.map (fun _ => ()) = v

theorem ends_pure (a : α) : Ends (pure a : Drawing ε α) (.ok ()) :=
  fun _ => rfl

theorem ends_throw (e : ε) : Ends (throw e : Drawing ε α) (.error e) :=
  fun _ => rfl

theorem ends_lift (x : StateM Desk α) : Ends (liftM x : Drawing ε α) (.ok ()) :=
  fun _ => rfl

/-- What is done next decides only when the first part went well. -/
theorem Ends.bind {x : Drawing ε α} {f : α → Drawing ε β} {v w : Except ε Unit} (hx : Ends x v)
    (hf : ∀ a, Ends (f a) w) : Ends (x >>= f) (v >>= fun _ => w) := by
  intro d
  rw [run_bind, ← hx d]
  cases h : x.run.run d with
  | mk made d' =>
    cases made with
    | error e => rfl
    | ok a => exact hf a d'

/-- What is done with the yield does not change the end. -/
theorem Ends.map {x : Drawing ε α} {v : Except ε Unit} (hx : Ends x v) (f : α → β) :
    Ends (x >>= fun a => pure (f a)) v := by
  have := hx.bind fun a => ends_pure (f a)
  cases v <;> exact this

/-- Wording an error differently does not change whether there is one. -/
theorem Ends.adapt {ε' : Type} {x : Drawing ε α} {v : Except ε Unit} (hx : Ends x v)
    (g : ε → ε') : Ends (ExceptT.adapt g x) (v.mapError g) := by
  intro d
  rw [← hx d]
  have : (ExceptT.adapt g x).run.run d = ((x.run.run d).1.mapError g, (x.run.run d).2) := rfl
  rw [this]
  cases (x.run.run d).1 <;> rfl

end Drawing

/-! ## Texts -/

open Drawing

namespace CompiledText

/-- As there is one directive for each placeholder, the first refusal among the directives is the
one that is met on the way through the segments. -/
theorem ends_renderSegments (segments : List Segment) :
    Ends (renderSegments segments
        ((segments.filterMap Segment.placeholder?).map Placeholder.directive))
      (forM ((segments.filterMap Segment.placeholder?).map Placeholder.directive)
        fun directive => directive.map fun _ => ()) := by
  induction segments with
  | nil => exact ends_pure []
  | cons segment rest ih =>
    cases segment with
    | literal text => exact ih.map (text :: ·)
    | placeholder p =>
      have hsplit : ((Segment.placeholder p :: rest).filterMap Segment.placeholder?).map
          Placeholder.directive = p.directive ::
            (rest.filterMap Segment.placeholder?).map Placeholder.directive := rfl
      rw [hsplit, List.forM_cons]
      cases p.directive with
      | error e => exact ends_throw e
      | ok directive => exact (ends_lift _).bind fun text => ih.map (text :: ·)

/-- A text is filled in unless one of its formats is refused. -/
theorem ends_materialize (t : CompiledText) (location : Location) :
    Ends (t.materialize location) (t.at location).validate := by
  obtain ⟨field, directives, rfl⟩ := t
  exact ((ends_renderSegments field.segments).map String.join).adapt
    (TemplateError.format location)

end CompiledText

/-! ## Templates -/

namespace CompiledTemplate

theorem ends_materializeOptional (location : Location) (t : Option CompiledText) :
    Ends (materializeOptional location t)
      (forM (t.map (CompiledText.at location)).toList CompiledField.validate) := by
  cases t with
  | none => exact ends_pure none
  | some t =>
    have h := (t.ends_materialize location).map some
    rw [Option.map_some, Option.toList_some, List.forM_cons]
    cases hv : (t.at location).validate with
    | error e =>
      rw [hv] at h
      exact h
    | ok u =>
      rw [hv] at h
      exact h

/-- The headers are filled in in the order in which they are checked, each at the same place. -/
theorem ends_materializeHeaders (headers : List (CompiledText × CompiledText)) (index : Nat) :
    Ends (materializeHeaders index headers)
      (forM ((headers.zipIdx index).flatMap fun ((k, v), i) =>
        [k.at (.headerKey i), v.at (.headerValue i)]) CompiledField.validate) := by
  induction headers generalizing index with
  | nil => exact ends_pure []
  | cons header headers ih =>
    obtain ⟨k, v⟩ := header
    rw [List.zipIdx_cons, List.flatMap_cons, List.cons_append, List.cons_append, List.nil_append,
      List.forM_cons, List.forM_cons]
    exact (k.ends_materialize (.headerKey index)).bind fun key =>
      (v.ends_materialize (.headerValue index)).bind fun value =>
        (ih (index + 1)).map (⟨key, value⟩ :: ·)

/-- A message is made unless `validate` refuses the template, and then it fails in the same way. -/
theorem ends_materialize (t : CompiledTemplate) : Ends t.materialize t.validate := by
  rw [validate, List.forM_eq_forM, fields, List.forM_append, List.forM_append, bind_assoc]
  exact (ends_materializeOptional .key t.key).bind fun key =>
    (ends_materializeOptional .value t.value).bind fun value =>
      (ends_materializeHeaders t.headers 0).map (Message.mk key value)

/-- A template that is in order yields a message in any context. -/
theorem materializeIn_of_validate {t : CompiledTemplate} (h : t.validate = .ok ())
    (context : Context) (supply : UuidSupply) :
    ∃ message desk, t.materializeIn context supply = (.ok message, desk) := by
  have hend := ends_materialize t { context, supply }
  rw [h] at hend
  unfold materializeIn
  cases hmade : t.materialize.run.run { context, supply } with
  | mk made desk =>
    rw [hmade] at hend
    cases made with
    | error e => cases hend
    | ok message => exact ⟨message, desk, rfl⟩

/-- What `validate` refuses is a format. -/
theorem exists_format_of_validate {t : CompiledTemplate} {e : TemplateError}
    (refused : t.validate = .error e) : ∃ location cause, e = .format location cause := by
  have hfirst : t.fields.findSome? (refusal? ∘ CompiledField.validate) = some e := by
    rw [← refusal?_forM, ← List.forM_eq_forM]
    exact refusal?_eq_some.mpr refused
  obtain ⟨f, -, hf⟩ := List.exists_of_findSome?_eq_some hfirst
  rw [Function.comp_apply, CompiledField.validate, refusal?_mapError,
    Option.map_eq_some_iff] at hf
  obtain ⟨cause, -, rfl⟩ := hf
  exact ⟨f.location, cause, rfl⟩

/-- Whatever the context and the supply, the message of a compiled template is made just when
`validate` accepts the template, and is refused with the very fault that `validate` finds: the first
of the formats that a placeholder cannot take. -/
theorem made_iff_validate {template : MessageTemplate} {t : CompiledTemplate}
    (compiled : compile template = .ok t) (context : Context) (supply : UuidSupply) :
    ((∃ message, (t.materializeIn context supply).1 = .ok message) ↔ t.validate = .ok ()) ∧
      (∀ e, (t.materializeIn context supply).1 = .error e ↔ t.validate = .error e) ∧
      (∀ e, t.validate = .error e ↔ template.formatFaults.head? = some e) ∧
      ∀ e, t.validate = .error e → ∃ location cause, e = .format location cause := by
  have hend : (t.materializeIn context supply).1.map (fun _ => ()) = t.validate :=
    ends_materialize t { context, supply }
  refine ⟨?_, ?_, ?_, fun e => exists_format_of_validate⟩
  · rw [← hend]
    cases (t.materializeIn context supply).1 <;> simp [Except.map]
  · intro e
    rw [← hend]
    cases (t.materializeIn context supply).1 <;> simp [Except.map]
  · intro e
    rw [← refusal?_validate compiled]
    exact refusal?_eq_some.symm

/-- An identifier is drawn for the key before the value of the second header is found at fault. -/
theorem made_iff_validate_of_padded_uuid :
    let template : MessageTemplate :=
      ⟨some "\x7buuid\x7d", none, [⟨"plain", "\x7bcount:03d\x7d"⟩, ⟨"id", "\x7buuid:04d\x7d"⟩]⟩
    let fault : TemplateError := .format (.headerValue 1) (.incompatible .uuid "04d")
    ∃ t, compile template = .ok t ∧ t.validate = .error fault ∧
      ∀ context supply, (t.materializeIn context supply).1 = .error fault := by
  intro template fault
  have hparse : template.parseFaults.head? = none := by decide +kernel
  have hformat : template.formatFaults.head? = some fault := by decide +kernel
  rw [← refusal?_compile] at hparse
  cases compiled : compile template with
  | error e =>
    rw [compiled] at hparse
    cases hparse
  | ok t =>
    have hvalidate : t.validate = .error fault :=
      refusal?_eq_some.mp ((refusal?_validate compiled).trans hformat)
    refine ⟨t, rfl, hvalidate, ?_⟩
    intro context supply
    obtain ⟨-, hmade, -, -⟩ := made_iff_validate compiled context supply
    exact (hmade fault).mpr hvalidate

end CompiledTemplate

end Courier.Template
