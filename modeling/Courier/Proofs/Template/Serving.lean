import Courier.Template.Tracking
import Courier.Proofs.Template.Substitution
import Mathlib.Data.Finset.Card

/-!
# Drawings that serve placeholders

A drawing that fills in placeholders takes the supply on by one identifier for each `{uuid}` up to
the first placeholder that cannot take its format, notes them all in its context, and fails just
when there is such a placeholder. This is so for one placeholder and is kept when drawings are put
in a row, up to the template as a whole.
-/

namespace Courier.Template

/-! ## Identifiers noted in a context -/

namespace Context

/-- The identifiers that a context keeps, as a set. -/
def issuedSet (c : Context) : Option (Finset Uuid) :=
  c.issued.map List.toFinset

/-- The context after identifiers were noted in it. -/
def noteAll (c : Context) (drawn : List Uuid) : Context :=
  drawn.foldl note c

/-- No identifier is kept twice, and all that are kept are among these. -/
def KeepsOf (c : Context) (pool : List Uuid) : Prop :=
  ∀ ids ∈ c.issued, ids.Nodup ∧ ids ⊆ pool

variable {c : Context} {drawn pool : List Uuid}

theorem noteAll_append (c : Context) (first later : List Uuid) :
    c.noteAll (first ++ later) = (c.noteAll first).noteAll later :=
  List.foldl_append

theorem index_noteAll (c : Context) (drawn : List Uuid) : (c.noteAll drawn).index = c.index := by
  induction drawn generalizing c with
  | nil => rfl
  | cons id drawn ih => exact ih (c.note id)

theorem instant_noteAll (c : Context) (drawn : List Uuid) :
    (c.noteAll drawn).instant = c.instant := by
  induction drawn generalizing c with
  | nil => rfl
  | cons id drawn ih => exact ih (c.note id)

theorem issuedSet_note (c : Context) (id : Uuid) :
    (c.note id).issuedSet = c.issuedSet.map (insert id) := by
  unfold issuedSet note
  rw [Option.map_map, Option.map_map]
  apply congrFun
  apply congrArg
  funext ids
  ext id'
  simp

theorem issuedSet_noteAll (c : Context) (drawn : List Uuid) :
    (c.noteAll drawn).issuedSet = c.issuedSet.map (· ∪ drawn.toFinset) := by
  induction drawn generalizing c with
  | nil => simp [noteAll]
  | cons id drawn ih =>
    have hset : ∀ kept : Finset Uuid,
        insert id kept ∪ drawn.toFinset = kept ∪ (id :: drawn).toFinset := by
      intro kept
      rw [List.toFinset_cons, Finset.insert_union, Finset.union_insert]
    show ((c.note id).noteAll drawn).issuedSet = _
    rw [ih, issuedSet_note, Option.map_map]
    simp only [Function.comp_def, hset]

/-- A new context keeps nothing yet. -/
theorem keepsOf_make (index : Nat) (instant : Time.Instant) (tracking : Bool) (pool : List Uuid) :
    (make index instant tracking).KeepsOf pool := by
  intro ids hids
  cases tracking with
  | false => cases hids
  | true =>
    cases hids
    exact ⟨List.nodup_nil, List.nil_subset pool⟩

/-- With one more identifier noted, what is kept is among one more. -/
theorem KeepsOf.note (h : c.KeepsOf pool) (id : Uuid) : (c.note id).KeepsOf (pool ++ [id]) := by
  intro ids hids
  obtain ⟨kept, hkept, rfl⟩ := Option.mem_map.mp hids
  obtain ⟨hnodup, hsub⟩ := h kept hkept
  refine ⟨hnodup.insert, ?_⟩
  intro id' hid'
  rw [List.mem_append, List.mem_singleton]
  rcases List.mem_insert_iff.mp hid' with rfl | hold
  · exact Or.inr rfl
  · exact Or.inl (hsub hold)

theorem KeepsOf.noteAll (h : c.KeepsOf pool) (drawn : List Uuid) :
    (c.noteAll drawn).KeepsOf (pool ++ drawn) := by
  induction drawn generalizing c pool with
  | nil =>
    rw [List.append_nil]
    exact h
  | cons id drawn ih =>
    rw [List.append_cons]
    exact ih (h.note id)

/-- What is kept is also among more identifiers. -/
theorem KeepsOf.mono (h : c.KeepsOf pool) (more : List Uuid) : c.KeepsOf (pool ++ more) := by
  intro ids hids
  obtain ⟨hnodup, hsub⟩ := h ids hids
  exact ⟨hnodup, List.subset_append_of_subset_left more hsub⟩

/-- The size of the set is counted right. -/
theorem KeepsOf.issuedCount_eq (h : c.KeepsOf pool) :
    c.issuedCount = c.issuedSet.map Finset.card := by
  unfold issuedCount issuedSet
  cases hissued : c.issued with
  | none => rfl
  | some ids =>
    have hnodup := (h ids hissued).1
    rw [Option.map_some, Option.map_some, Option.map_some, List.toFinset_card_of_nodup hnodup]

/-- Identifiers that are all new are each one more. -/
theorem KeepsOf.issuedCount_noteAll (h : c.KeepsOf pool) (fresh : (pool ++ drawn).Nodup) :
    (c.noteAll drawn).issuedCount = c.issuedCount.map (· + drawn.length) := by
  obtain ⟨-, hnodup, hapart⟩ := List.nodup_append'.mp fresh
  rw [(h.noteAll drawn).issuedCount_eq, issuedSet_noteAll, issuedSet, issuedCount]
  cases hissued : c.issued with
  | none => rfl
  | some ids =>
    obtain ⟨hkept, hsub⟩ := h ids hissued
    have hdisjoint : Disjoint ids.toFinset drawn.toFinset :=
      List.disjoint_toFinset_iff_disjoint.mpr (List.disjoint_of_subset_left hsub hapart)
    simp only [Option.map_some]
    rw [Finset.card_union_of_disjoint hdisjoint, List.toFinset_card_of_nodup hkept,
      List.toFinset_card_of_nodup hnodup]

end Context

/-- What a context has become when these identifiers were drawn in it. Its index and its instant
stay as they were, and the identifiers are kept just if any were kept before. -/
structure Context.Became (first : Context) (drawn : List Uuid) (c : Context) : Prop where
  index_eq : c.index = first.index
  instant_eq : c.instant = first.instant
  issued_eq : c.issuedSet = first.issuedSet.map (· ∪ drawn.toFinset)

theorem Context.became_noteAll (c : Context) (drawn : List Uuid) :
    c.Became drawn (c.noteAll drawn) :=
  ⟨c.index_noteAll drawn, c.instant_noteAll drawn, c.issuedSet_noteAll drawn⟩

/-- The identifiers that come next are all different as long as the supply is fresh. -/
theorem nodup_upcoming {s : UuidSupply} {n : Nat} (fresh : s.FreshUpTo (s.drawn + n)) :
    (s.upcoming n).Nodup := by
  unfold UuidSupply.upcoming List.Nodup
  rw [List.pairwise_map]
  apply List.Pairwise.imp_of_mem _ List.pairwise_lt_range'
  intro a b ha hb hlt
  have hstart := (List.mem_range'_1.mp ha).1
  have hstop := (List.mem_range'_1.mp hb).2
  exact fresh a b hstart hlt hstop

/-! ## Drawings that serve placeholders -/

namespace Desk

/-- The desk after this many identifiers were drawn. -/
def advance (d : Desk) (n : Nat) : Desk :=
  { context := d.context.noteAll (d.supply.upcoming n), supply := d.supply.skip n }

theorem advance_add (d : Desk) (m n : Nat) : d.advance (m + n) = (d.advance m).advance n := by
  unfold advance
  rw [UuidSupply.upcoming_add, Context.noteAll_append, UuidSupply.skip_skip]

/-- The value of a placeholder is found by drawing what its name asks for. -/
theorem value_run_snd (name : PlaceholderName) (d : Desk) :
    ((value name).run d).2 = d.advance (if name = .uuid then 1 else 0) := by
  cases name <;> rfl

end Desk

section Fault

variable {ps : List Placeholder}

/-- Behind placeholders without a fault the count goes on. -/
theorem uuidsBeforeFault_of_accepted (accepted : ps.all (·.directive.isOk) = true)
    (qs : List Placeholder) :
    uuidsBeforeFault (ps ++ qs) = uuidsBeforeFault ps + uuidsBeforeFault qs := by
  have hall : ∀ p ∈ ps, p.directive.isOk = true := List.all_eq_true.mp accepted
  unfold uuidsBeforeFault
  rw [List.takeWhile_append_of_pos hall, List.countP_append, List.takeWhile_eq_self_iff.mpr hall]

/-- Placeholders behind the first fault do not count. -/
theorem uuidsBeforeFault_of_refused (refused : ps.all (·.directive.isOk) = false)
    (qs : List Placeholder) : uuidsBeforeFault (ps ++ qs) = uuidsBeforeFault ps := by
  unfold uuidsBeforeFault
  induction ps with
  | nil => cases refused
  | cons p ps ih =>
    rw [List.cons_append, List.takeWhile_cons, List.takeWhile_cons]
    by_cases hp : p.directive.isOk = true
    · rw [List.all_cons, hp, Bool.true_and] at refused
      rw [if_pos hp, if_pos hp, List.countP_cons, List.countP_cons, ih refused]
    · rw [if_neg hp, if_neg hp]

end Fault

namespace Drawing

variable {ε ε' α β : Type}

/-- A drawing uses up identifiers for these placeholders up to the first of them that cannot take
its format, and fails just when there is one. -/
def Serves (x : Drawing ε α) (ps : List Placeholder) : Prop :=
  ∀ d, (x.run.run d).2 = d.advance (uuidsBeforeFault ps) ∧
    (x.run.run d).1.isOk = ps.all (·.directive.isOk)

theorem serves_pure (a : α) : Serves (pure a : Drawing ε α) [] :=
  fun _ => ⟨rfl, rfl⟩

/-- Placeholders are served one after the other. -/
theorem Serves.bind {x : Drawing ε α} {f : α → Drawing ε β} {ps qs : List Placeholder}
    (hx : Serves x ps) (hf : ∀ a, Serves (f a) qs) : Serves (x >>= f) (ps ++ qs) := by
  intro d
  obtain ⟨hdesk, hok⟩ := hx d
  rw [run_bind, List.all_append]
  cases hrun : x.run.run d with
  | mk made between =>
    rw [hrun] at hdesk hok
    cases made with
    | error e =>
      -- the second drawing does not begin, and its placeholders come after the fault
      have refused : ps.all (·.directive.isOk) = false := hok.symm
      rw [uuidsBeforeFault_of_refused refused, refused]
      exact ⟨hdesk, rfl⟩
    | ok a =>
      have accepted : ps.all (·.directive.isOk) = true := hok.symm
      have hbetween : between = d.advance (uuidsBeforeFault ps) := hdesk
      rw [uuidsBeforeFault_of_accepted accepted, accepted, Desk.advance_add, ← hbetween]
      exact hf a between

/-- What is done with the yield draws nothing. -/
theorem Serves.map {x : Drawing ε α} {ps : List Placeholder} (hx : Serves x ps) (f : α → β) :
    Serves (x >>= fun a => pure (f a)) ps := by
  have h := hx.bind fun a => serves_pure (f a)
  rw [List.append_nil] at h
  exact h

theorem Serves.adapt {x : Drawing ε α} {ps : List Placeholder} (hx : Serves x ps) (g : ε → ε') :
    Serves (ExceptT.adapt g x) ps := by
  intro d
  have hrun : (ExceptT.adapt g x).run.run d = ((x.run.run d).1.mapError g, (x.run.run d).2) := rfl
  have hok : ((x.run.run d).1.mapError g).isOk = (x.run.run d).1.isOk := by
    cases (x.run.run d).1 <;> rfl
  rw [hrun, hok]
  exact hx d

/-- A list is served member by member. -/
theorem serves_mapM {f : α → Drawing ε β} {placeholdersOf : α → List Placeholder}
    (h : ∀ a, Serves (f a) (placeholdersOf a)) (xs : List α) :
    Serves (xs.mapM f) (xs.flatMap placeholdersOf) := by
  induction xs with
  | nil => exact serves_pure []
  | cons x xs ih =>
    rw [List.mapM_cons, List.flatMap_cons]
    exact (h x).bind fun y => ih.map (y :: ·)

end Drawing

open Drawing

/-- Only a `{uuid}` with a proper format draws. -/
theorem uuidsBeforeFault_singleton (p : Placeholder) :
    uuidsBeforeFault [p] = if p.directive.isOk ∧ p.name = .uuid then 1 else 0 := by
  unfold uuidsBeforeFault
  by_cases hp : p.directive.isOk = true <;> by_cases hname : p.name = .uuid
  all_goals simp [hp, hname]

/-- One occurrence of a placeholder serves just this one. -/
theorem serves_render (p : Placeholder) : Serves (Desk.render p.name p.format) [p] := by
  intro d
  rw [uuidsBeforeFault_singleton, List.all_cons, List.all_nil, Bool.and_true, Desk.render]
  show _ ∧ _ = (Directive.classify p.name p.format).isOk
  unfold Placeholder.directive
  cases Directive.classify p.name p.format with
  | error e => exact ⟨rfl, rfl⟩
  | ok directive =>
    have hname : (Except.ok directive : Except FormatError Directive).isOk = true ∧
        p.name = .uuid ↔ p.name = .uuid := by
      simp [Except.isOk, Except.toBool]
    rw [if_congr hname rfl rfl]
    exact ⟨Desk.value_run_snd p.name d, rfl⟩

theorem Segment.serves_render (s : Segment) : Serves s.render s.placeholder?.toList := by
  cases s with
  | literal text => exact serves_pure text
  | placeholder p => exact Template.serves_render p

/-- A text serves its placeholders from left to right. -/
theorem CompiledText.serves_materialize (t : CompiledText) (location : Location) :
    Serves (t.materialize location) t.field.placeholders := by
  obtain ⟨field, directives, rfl⟩ := t
  have hsegments := CompiledText.renderSegments_eq_mapM field.segments
  have hserves := serves_mapM Segment.serves_render field.segments
  rw [← hsegments, ← List.filterMap_eq_flatMap_toList] at hserves
  exact (hserves.map String.join).adapt (TemplateError.format location)

namespace CompiledTemplate

theorem serves_materializeOptional (location : Location) (t : Option CompiledText) :
    Serves (materializeOptional location t)
      ((t.map (CompiledText.at location)).toList.flatMap (·.field.placeholders)) := by
  cases t with
  | none => exact serves_pure none
  | some t =>
    rw [Option.map_some, Option.toList_some, List.flatMap_singleton]
    exact (t.serves_materialize location).map some

theorem serves_materializeHeaders (headers : List (CompiledText × CompiledText)) (index : Nat) :
    Serves (materializeHeaders index headers)
      (((headers.zipIdx index).flatMap fun ((k, v), i) =>
        [k.at (.headerKey i), v.at (.headerValue i)]).flatMap (·.field.placeholders)) := by
  induction headers generalizing index with
  | nil => exact serves_pure []
  | cons header headers ih =>
    obtain ⟨k, v⟩ := header
    rw [List.zipIdx_cons, List.flatMap_cons, List.flatMap_append, List.flatMap_cons,
      List.flatMap_singleton, List.append_assoc]
    apply (k.serves_materialize (.headerKey index)).bind
    intro key
    apply (v.serves_materialize (.headerValue index)).bind
    intro value
    exact (ih (index + 1)).map (⟨key, value⟩ :: ·)

/-- A template serves its placeholders text by text. -/
theorem serves_materialize (t : CompiledTemplate) :
    Serves t.materialize (t.fields.flatMap (·.field.placeholders)) := by
  unfold fields
  rw [List.flatMap_append, List.flatMap_append, List.append_assoc]
  apply (serves_materializeOptional .key t.key).bind
  intro key
  apply (serves_materializeOptional .value t.value).bind
  intro value
  exact (serves_materializeHeaders t.headers 0).map (Message.mk key value)

/-- The placeholders are those of the texts that the template is compiled from. -/
theorem placeholders_of_compile {template : MessageTemplate} {t : CompiledTemplate}
    (compiled : compile template = .ok t) :
    t.fields.flatMap (·.field.placeholders) = template.placeholders := by
  have made : template.texts.mapM compileAt = .ok t.fields := by
    rw [← map_compile, compiled]
    rfl
  unfold MessageTemplate.placeholders
  rw [List.flatMap_def, List.flatMap_def]
  apply congrArg
  refine map_of_mapM ?_ made
  intro (location, text) f hcompiled
  unfold compileAt CompiledText.compile at hcompiled
  cases hparse : Field.parse text with
  | error e =>
    rw [hparse] at hcompiled
    cases hcompiled
  | ok field =>
    rw [hparse] at hcompiled
    cases hcompiled
    dsimp only
    rw [hparse]
    rfl

end CompiledTemplate

end Courier.Template
