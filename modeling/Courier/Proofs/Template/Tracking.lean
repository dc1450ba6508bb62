import Courier.Proofs.Template.Rendering
import Courier.Proofs.Template.Serving

/-!
# What a context keeps is what was drawn in it

Every step of a session draws a certain number of identifiers, whether it succeeds or fails, and
notes them in its own context alone. So a context that keeps identifiers keeps what it started with
and what was drawn in it since, and as long as the supply does not repeat itself, each identifier
that is drawn is one more.
-/

namespace Courier.Template

/-! ## Steps -/

namespace Session

/-- What a step can do to a session: leave its contexts alone, open one more, or draw in one. -/
inductive Effect (s : Session) (step : SessionStep) : Session → Prop where
  | stays (clock : Time.Clock) (tracking : Bool) : Effect s step { s with clock, tracking }
  | opens {c : Context} (clock : Time.Clock) (opened : s.Opens step s.contexts.length c) :
    Effect s step { s with clock, contexts := s.contexts ++ [c] }
  | works {number : Nat} {c : Context} (n : Nat) (own : step.context? = some number)
    (found : s.contexts[number]? = some c) :
    Effect s step (s.settle number (Desk.advance { context := c, supply := s.supply } n))

section Step

variable {s : Session} {number : Nat} {c : Context}

/-- Rendering draws one identifier if it succeeds for a `{uuid}`, and none otherwise. -/
theorem step_render (found : s.contexts[number]? = some c) (name : PlaceholderName)
    (format : Option String) :
    ∃ made, s.step (.render number name format) = (.text made, s.settle number
        (Desk.advance { context := c, supply := s.supply }
          (if made.isOk ∧ name = .uuid then 1 else 0))) ∧
      made = Directive.render name format (c.value (s.supply.series s.supply.drawn) name) := by
  obtain ⟨hdesk, hok⟩ := serves_render (.at 0 name format) { context := c, supply := s.supply }
  rw [List.all_cons, List.all_nil, Bool.and_true] at hok
  rw [uuidsBeforeFault_singleton, ← hok] at hdesk
  refine ⟨((Desk.render name format).run.run { context := c, supply := s.supply }).1, ?_, ?_⟩
  · simp only [step, found]
    exact congrArg (fun desk => (SessionReply.text _, s.settle number desk)) hdesk
  · exact Desk.render_run_fst name format { context := c, supply := s.supply }

/-- A template draws for its placeholders up to the first fault, whether or not there is one. -/
theorem step_materialize {template : MessageTemplate} {t : CompiledTemplate}
    (found : s.contexts[number]? = some c) (compiled : CompiledTemplate.compile template = .ok t) :
    ∃ made, s.step (.materialize number template) = (.message made, s.settle number
        (Desk.advance { context := c, supply := s.supply }
          (uuidsBeforeFault template.placeholders))) ∧
      made.isOk = template.placeholders.all (·.directive.isOk) ∧
      ∀ m, made = .ok m → ∃ rows, t.Spelt c s.supply.series s.supply.drawn m rows := by
  obtain ⟨hdesk, hok⟩ := t.serves_materialize { context := c, supply := s.supply }
  rw [CompiledTemplate.placeholders_of_compile compiled] at hdesk hok
  refine ⟨(t.materializeIn c s.supply).1, ?_, hok, ?_⟩
  · simp only [step, found, compiled]
    exact congrArg (fun desk => (SessionReply.message _, s.settle number desk)) hdesk
  · intro m made
    exact (CompiledTemplate.spelt_of_materializeIn (Prod.ext made rfl)).1

/-- A template that does not compile leaves the session as it is. -/
theorem step_materialize_of_error {template : MessageTemplate} {e : TemplateError}
    (refused : CompiledTemplate.compile template = .error e) :
    (s.step (.materialize number template)).2 = s := by
  simp only [step, refused]
  cases s.contexts[number]? <;> rfl

/-- A context that is not there is not worked in. -/
theorem step_of_missing {step : SessionStep} (own : step.context? = some number)
    (missing : s.contexts[number]? = none) : (s.step step).2 = s := by
  cases step with
  | render _ name format =>
    cases own
    simp only [Session.step, missing]
  | materialize _ template =>
    cases own
    simp only [Session.step, missing]
  | _ => cases own

/-- A context that is opened is there from then on, under the next number. -/
theorem step_of_opens {step : SessionStep} (opened : s.Opens step number c) :
    number = s.contexts.length ∧
      ∃ clock, (s.step step).2 = { s with clock, contexts := s.contexts ++ [c] } := by
  cases opened with
  | create reading =>
    refine ⟨rfl, s.clock.read.2, ?_⟩
    simp only [Session.step, reading]
    rfl
  | createAt index instant tracking => exact ⟨rfl, s.clock, rfl⟩
  | copy found =>
    refine ⟨rfl, s.clock, ?_⟩
    simp only [Session.step, found]
    rfl

theorem getElem?_of_opens {step : SessionStep} (opened : s.Opens step number c) :
    (s.step step).2.contexts[number]? = some c := by
  obtain ⟨rfl, clock, hstep⟩ := step_of_opens opened
  rw [hstep]
  exact List.getElem?_concat_length

theorem effect_of_opens {step : SessionStep} (opened : s.Opens step number c) :
    s.Effect step (s.step step).2 := by
  obtain ⟨rfl, clock, hstep⟩ := step_of_opens opened
  rw [hstep]
  exact .opens clock opened

/-- Every step has the effect that it should have. -/
theorem effect_step (s : Session) (step : SessionStep) : s.Effect step (s.step step).2 := by
  cases step with
  | readClock =>
    have hstays : (s.step .readClock).2 = { s with clock := s.clock.read.2 } := by
      unfold Session.step
      dsimp only
      cases s.clock.read.1 <;> rfl
    rw [hstays]
    exact .stays s.clock.read.2 s.tracking
  | setTracking tracking => exact .stays s.clock tracking
  | create index =>
    cases hread : s.clock.read.1 with
    | some instant => exact effect_of_opens (.create hread)
    | none =>
      have hstays : (s.step (.create index)).2 = { s with clock := s.clock.read.2 } := by
        simp only [Session.step, hread]
      rw [hstays]
      exact .stays s.clock.read.2 s.tracking
  -- Given an instant, no clock is read.
  | createAt index instant tracking => exact effect_of_opens (.createAt index instant tracking)
  | copy number =>
    cases found : s.contexts[number]? with
    | some c => exact effect_of_opens (.copy found)
    | none =>
      have hstays : (s.step (.copy number)).2 = s := by
        simp only [Session.step, found]
      rw [hstays]
      exact .stays s.clock s.tracking
  | render number name format =>
    cases found : s.contexts[number]? with
    | some c =>
      obtain ⟨made, hstep, -⟩ := step_render found name format
      rw [hstep]
      exact .works _ rfl found
    | none =>
      rw [step_of_missing rfl found]
      exact .stays s.clock s.tracking
  | materialize number template =>
    cases found : s.contexts[number]? with
    | some c =>
      cases compiled : CompiledTemplate.compile template with
      | error e =>
        rw [step_materialize_of_error compiled]
        exact .stays s.clock s.tracking
      | ok t =>
        obtain ⟨made, hstep, -⟩ := step_materialize found compiled
        rw [hstep]
        exact .works _ rfl found
    | none =>
      rw [step_of_missing rfl found]
      exact .stays s.clock s.tracking

theorem drawnBy_of_skip {step : SessionStep} {n : Nat}
    (h : (s.step step).2.supply = s.supply.skip n) : s.drawnBy step = s.supply.upcoming n := by
  have hdrawn : (s.step step).2.supply.drawn - s.supply.drawn = n := by
    rw [h, UuidSupply.drawn_skip, Nat.add_sub_cancel_left]
  rw [drawnBy, hdrawn]

/-- A step leaves a context as it is, but for the identifiers that it draws and notes in it. -/
theorem getElem?_step (found : s.contexts[number]? = some c) (step : SessionStep) :
    (s.step step).2.contexts[number]? = some (c.noteAll (s.drawnIn number step)) := by
  have hlt : number < s.contexts.length := (List.getElem?_eq_some_iff.mp found).1
  have hskip : ∀ n, (s.step step).2.supply = s.supply.skip n →
      s.drawnBy step = s.supply.upcoming n := fun n => drawnBy_of_skip
  have heffect := effect_step s step
  -- what is drawn is told from the session after the step, so that the step itself can be forgotten
  unfold drawnIn
  generalize (s.step step).2 = after at heffect hskip ⊢
  cases heffect with
  | stays clock tracking =>
    rw [hskip 0 rfl, UuidSupply.upcoming_zero, ite_self]
    exact found
  | opens clock opened =>
    rw [hskip 0 rfl, UuidSupply.upcoming_zero, ite_self]
    exact (List.getElem?_append_left hlt).trans found
  | @works worked c' n own found' =>
    rw [hskip n rfl, own]
    by_cases hsame : worked = number
    · rw [if_pos (congrArg some hsame)]
      rw [hsame, found, Option.some_inj] at found'
      rw [hsame, found']
      exact List.getElem?_set_self hlt
    · have hother : some worked ≠ some number := fun h => hsame (Option.some.inj h)
      rw [if_neg hother]
      exact (List.getElem?_set_ne hsame).trans found

end Step

/-! ## Runs -/

section Run

variable {opening s : Session} {number : Nat} {c : Context}

theorem after_append (s : Session) (run later : List SessionStep) :
    s.after (run ++ later) = (s.after run).after later := by
  induction run generalizing s with
  | nil => rfl
  | cons step run ih => exact ih (s.step step).2

theorem after_concat (s : Session) (run : List SessionStep) (step : SessionStep) :
    s.after (run ++ [step]) = ((s.after run).step step).2 :=
  after_append s run [step]

/-- A context becomes what is noted in it step by step. -/
theorem getElem?_after (found : s.contexts[number]? = some c) (run : List SessionStep) :
    (s.after run).contexts[number]? = some (c.noteAll (s.drawnOver number run)) := by
  induction run generalizing s c with
  | nil => exact found
  | cons step run ih =>
    rw [drawnOver, Context.noteAll_append]
    exact ih (getElem?_step found step)

/-- Each context was opened by a step. -/
theorem exists_opens (opened : opening.contexts = []) (run : List SessionStep)
    (hnumber : number < (opening.after run).contexts.length) :
    ∃ before step later first, run = before ++ step :: later ∧
      (opening.after before).Opens step number first := by
  induction run using List.reverseRecOn with
  | nil =>
    rw [after, steps, opened] at hnumber
    cases hnumber
  | append_singleton run step ih =>
    -- the context was there already, or the last step is the one that opens it
    have hcases : number < (opening.after run).contexts.length ∨
        ∃ first, (opening.after run).Opens step number first := by
      rw [after_concat] at hnumber
      have heffect := effect_step (opening.after run) step
      generalize ((opening.after run).step step).2 = last at heffect hnumber
      cases heffect with
      | stays clock tracking => exact Or.inl hnumber
      | @opens c clock hopens =>
        by_cases hlast : number = (opening.after run).contexts.length
        · rw [hlast]
          exact Or.inr ⟨c, hopens⟩
        · rw [List.length_append, List.length_singleton] at hnumber
          left
          omega
      | works n own found =>
        rw [settle, List.length_set] at hnumber
        exact Or.inl hnumber
    rcases hcases with hearlier | ⟨first, hopens⟩
    · obtain ⟨before, made, later, first, rfl, hopens⟩ := ih hearlier
      refine ⟨before, made, later ++ [step], first, ?_, hopens⟩
      rw [List.append_assoc, List.cons_append]
    · exact ⟨run, step, [], first, rfl, hopens⟩

/-- What is kept in a session was drawn from its supply since it was opened, each identifier kept
once. -/
def KeepsSince (opening s : Session) : Prop :=
  ∃ n, s.supply = opening.supply.skip n ∧
    ∀ c ∈ s.contexts, c.KeepsOf (opening.supply.upcoming n)

/-- After a step, all that is kept was drawn since the session was opened. -/
theorem KeepsSince.step (h : KeepsSince opening s) (step : SessionStep) :
    KeepsSince opening (s.step step).2 := by
  obtain ⟨n, hsupply, hkeeps⟩ := h
  have heffect := effect_step s step
  -- Only the effect counts from here on.
  generalize (s.step step).2 = after at heffect ⊢
  cases heffect with
  | stays clock tracking => exact ⟨n, hsupply, hkeeps⟩
  | @opens first clock hopens =>
    refine ⟨n, hsupply, ?_⟩
    intro c hc
    rcases List.mem_append.mp hc with hold | hnew
    · exact hkeeps c hold
    · rw [List.mem_singleton.mp hnew]
      cases hopens with
      | create reading => exact Context.keepsOf_make _ _ s.tracking _
      | createAt index instant tracking => exact Context.keepsOf_make index instant tracking _
      | copy found => exact hkeeps first (List.mem_of_getElem? found)
  | @works number first k own found =>
    refine ⟨n + k, ?_, ?_⟩
    · show s.supply.skip k = _
      rw [hsupply, UuidSupply.skip_skip]
    · intro c hc
      rw [UuidSupply.upcoming_add, ← hsupply]
      rcases List.mem_or_eq_of_mem_set hc with hold | hnew
      · exact (hkeeps c hold).mono _
      · rw [hnew]
        exact (hkeeps first (List.mem_of_getElem? found)).noteAll _

/-- However long a session runs, all that is kept in it was drawn since it was opened. -/
theorem keepsSince_after (opened : opening.contexts = []) (run : List SessionStep) :
    KeepsSince opening (opening.after run) := by
  induction run using List.reverseRecOn with
  | nil =>
    refine ⟨0, rfl, ?_⟩
    intro c hc
    rw [after, steps, opened] at hc
    cases hc
  | append_singleton run step ih =>
    rw [after_concat]
    exact ih.step step

end Run

/-! ## The account of a session -/

/-- What each next step draws, and where it is noted. -/
structure Draws (s : Session) : Prop where
  /-- A rendering draws one identifier if it succeeds for a `{uuid}`, which is the one that it
  writes, and none otherwise. -/
  rendered : ∀ number c name format, s.contexts[number]? = some c →
    ∃ made, (s.step (.render number name format)).1 = .text made ∧
      made = Directive.render name format (c.value (s.supply.series s.supply.drawn) name) ∧
      (s.step (.render number name format)).2.supply =
        s.supply.skip (if made.isOk ∧ name = .uuid then 1 else 0)
  /-- A template draws one identifier for each `{uuid}` before its first fault, and fails just when
  it has one. A message is spelt with the identifiers that are drawn for it. -/
  materialized : ∀ number c template t, s.contexts[number]? = some c →
    CompiledTemplate.compile template = .ok t →
    ∃ made, (s.step (.materialize number template)).1 = .message made ∧
      made.isOk = template.placeholders.all (·.directive.isOk) ∧
      (∀ m, made = .ok m → ∃ rows, t.Spelt c s.supply.series s.supply.drawn m rows) ∧
      (s.step (.materialize number template)).2.supply =
        s.supply.skip (uuidsBeforeFault template.placeholders)
  /-- A template that cannot be compiled changes nothing. -/
  uncompiled : ∀ number template e, CompiledTemplate.compile template = .error e →
    (s.step (.materialize number template)).2 = s
  /-- A step that works in none of the contexts draws nothing. -/
  idle : ∀ step, (step.context?.bind fun number => s.contexts[number]?) = none →
    (s.step step).2.supply = s.supply
  /-- What a step draws is noted in the context that it works in. -/
  noted : ∀ step number c, step.context? = some number → s.contexts[number]? = some c →
    ∃ c', (s.step step).2.contexts[number]? = some c' ∧ c.Became (s.drawnBy step) c'
  /-- All other contexts stay what they are. -/
  apart : ∀ step number c, step.context? ≠ some number → s.contexts[number]? = some c →
    (s.step step).2.contexts[number]? = some c

theorem draws (s : Session) : s.Draws := by
  constructor
  case rendered =>
    intro number c name format found
    obtain ⟨made, hstep, hmade⟩ := step_render found name format
    rw [hstep]
    exact ⟨made, rfl, hmade, rfl⟩
  case materialized =>
    intro number c template t found compiled
    obtain ⟨made, hstep, hok, hspelt⟩ := step_materialize found compiled
    rw [hstep]
    exact ⟨made, rfl, hok, hspelt, rfl⟩
  case uncompiled =>
    intro number template e refused
    exact step_materialize_of_error refused
  case idle =>
    intro step hnone
    have heffect := effect_step s step
    generalize (s.step step).2 = after at heffect ⊢
    cases heffect with
    | stays clock tracking => rfl
    | opens clock opened => rfl
    -- A step that works in a context has one.
    | works n own found =>
      rw [own, Option.bind_some, found] at hnone
      cases hnone
  case noted =>
    intro step number c own found
    have hdrawn : s.drawnIn number step = s.drawnBy step := if_pos own
    refine ⟨c.noteAll (s.drawnBy step), ?_, c.became_noteAll _⟩
    rw [getElem?_step found step, hdrawn]
  case apart =>
    intro step number c other found
    have hnone : s.drawnIn number step = [] := if_neg other
    rw [getElem?_step found step, hnone]
    rfl

/-- The account of a session that was opened without contexts, after these steps. -/
structure Tracked (opening : Session) (run : List SessionStep) : Prop where
  /-- Each context was opened by a step. -/
  opened : ∀ number < (opening.after run).contexts.length, ∃ before step later first,
    run = before ++ step :: later ∧ (opening.after before).Opens step number first
  /-- A context that was opened by a step has become what was drawn in it by later steps. -/
  account : ∀ before step later number first, run = before ++ step :: later →
    (opening.after before).Opens step number first →
    ∃ c, (opening.after run).contexts[number]? = some c ∧
      first.Became ((opening.after (before ++ [step])).drawnOver number later) c ∧
      c.issuedCount = c.issuedSet.map Finset.card
  /-- The next step draws what it should, and for no other context than its own. -/
  next : (opening.after run).Draws
  /-- As long as the supply has not repeated itself, a step that draws so many identifiers leaves
  its context with so many more. -/
  grows : ∀ step number c c' n, step.context? = some number →
    (opening.after run).contexts[number]? = some c →
    ((opening.after run).step step).2.contexts[number]? = some c' →
    ((opening.after run).step step).2.supply = (opening.after run).supply.skip n →
    opening.supply.FreshUpTo ((opening.after run).step step).2.supply.drawn →
    c'.issuedCount = c.issuedCount.map (· + n)

/-- Whatever steps are taken, the identifiers that are kept are accounted for. -/
theorem tracked_after (clock : Time.Clock) (supply : UuidSupply) (tracking : Bool)
    (run : List SessionStep) : Tracked { clock, supply, tracking } run := by
  generalize hopening : ({ clock, supply, tracking } : Session) = opening
  have hnone : opening.contexts = [] := by rw [← hopening]
  constructor
  case opened =>
    intro number hnumber
    exact exists_opens hnone run hnumber
  case account =>
    intro before step later number first hrun hopens
    have hfound : (opening.after (before ++ [step])).contexts[number]? = some first := by
      rw [after_concat]
      exact getElem?_of_opens hopens
    have hlast := getElem?_after hfound later
    rw [← after_append, ← List.append_cons, ← hrun] at hlast
    obtain ⟨n, -, hkeeps⟩ := keepsSince_after hnone run
    exact ⟨_, hlast, first.became_noteAll _,
      (hkeeps _ (List.mem_of_getElem? hlast)).issuedCount_eq⟩
  case next => exact draws (opening.after run)
  case grows =>
    intro step number c c' n own found found' hskip fresh
    obtain ⟨m, hsupply, hkeeps⟩ := keepsSince_after hnone run
    have hdrawn : (opening.after run).drawnIn number step = (opening.supply.skip m).upcoming n := by
      rw [drawnIn, if_pos own, drawnBy_of_skip hskip, hsupply]
    -- What was drawn before and what this step draws are one piece of the series.
    have hnodup : (opening.supply.upcoming m ++ (opening.supply.skip m).upcoming n).Nodup := by
      rw [← UuidSupply.upcoming_add]
      apply nodup_upcoming
      rw [hskip, hsupply, UuidSupply.skip_skip] at fresh
      exact fresh
    rw [getElem?_step found step, hdrawn, Option.some_inj] at found'
    have hcount := (hkeeps c (List.mem_of_getElem? found)).issuedCount_noteAll hnodup
    rw [found', UuidSupply.length_upcoming] at hcount
    exact hcount

/-- A message that fails in the middle of a header leaves two identifiers, and a copy goes on from
there on its own. -/
example :
    let template : MessageTemplate :=
      ⟨some "\x7buuid\x7d", none, [⟨"\x7bcount\x7d", "\x7buuid\x7d-\x7buuid:x\x7d-\x7buuid\x7d"⟩]⟩
    let clock : Time.Clock := .fixed ⟨0, 0, by decide, by decide, by decide, by decide⟩
    let opening : Session := { clock, supply := .seeded 0, tracking := true }
    uuidsBeforeFault template.placeholders = 2 ∧
      (opening.after [.create 1, .materialize 0 template, .copy 0,
        .render 1 .uuid none]).contexts.map Context.issuedCount = [some 2, some 3] := by
  decide +kernel

end Session

end Courier.Template
