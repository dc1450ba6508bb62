import Courier.Template.Grammar
import Mathlib.Data.List.Chain

/-!
# Segments of a row of lexemes

`segmentsOf` joins the lexemes between placeholders. It loses nothing, keeps the placeholders where
they are, and its literal segments are as long as they can be: none is empty and no two are next to
each other.
-/

namespace Courier.Template

@[simp] theorem printLexemes_nil : printLexemes [] = [] := rfl

@[simp] theorem printLexemes_cons (l : Lexeme) (ls : List Lexeme) :
    printLexemes (l :: ls) = l.print ++ printLexemes ls := rfl

@[simp] theorem printLexemes_append (ls ls' : List Lexeme) :
    printLexemes (ls ++ ls') = printLexemes ls ++ printLexemes ls' :=
  List.flatMap_append

/-- The written form of segments. -/
def printSegments (segments : List Segment) : List Char :=
  segments.flatMap Segment.print

@[simp] theorem printSegments_nil : printSegments [] = [] := rfl

@[simp] theorem printSegments_cons (s : Segment) (segments : List Segment) :
    printSegments (s :: segments) = s.print ++ printSegments segments := rfl

/-- A lexeme other than a placeholder becomes part of the text in front. -/
theorem prepend_of_placeholder?_eq_none {l : Lexeme} (h : l.placeholder? = none)
    (acc : List Char × List Segment) : prepend l acc = (l.print ++ acc.1, acc.2) := by
  cases l with
  | placeholder p => cases h
  | _ => rfl

theorem eq_placeholder_of_placeholder? {l : Lexeme} {p : Placeholder}
    (h : l.placeholder? = some p) : l = .placeholder p := by
  cases l with
  | placeholder q => cases h; rfl
  | _ => cases h

/-! ## Nothing is lost -/

/-- The text of a segment when `f` says how placeholders are written. -/
def Segment.textWith (f : Placeholder → List Char) : Segment → List Char
  | .literal text => text.toList
  | .placeholder p => f p

/-- The text of a lexeme when `f` says how placeholders are written. -/
def Lexeme.textWith (f : Placeholder → List Char) : Lexeme → List Char
  | .placeholder p => f p
  | l => l.print

section

variable (f : Placeholder → List Char)

theorem Lexeme.textWith_of_placeholder?_eq_none {l : Lexeme} (h : l.placeholder? = none) :
    l.textWith f = l.print := by
  cases l with
  | placeholder p => cases h
  | _ => rfl

/-- Closing a literal changes no text. -/
theorem flatMap_textWith_close (acc : List Char × List Segment) :
    (prepend.close acc).flatMap (Segment.textWith f) =
      acc.1 ++ acc.2.flatMap (Segment.textWith f) := by
  unfold prepend.close
  split
  · rename_i h
    rw [List.isEmpty_iff.mp h, List.nil_append]
  · rw [List.flatMap_cons, Segment.textWith, String.toList_ofList]

/-- A lexeme in front adds its own text and no more. -/
theorem flatMap_textWith_prepend (l : Lexeme) (acc : List Char × List Segment) :
    (prepend l acc).1 ++ (prepend l acc).2.flatMap (Segment.textWith f) =
      l.textWith f ++ (acc.1 ++ acc.2.flatMap (Segment.textWith f)) := by
  cases h : l.placeholder? with
  | none =>
    rw [prepend_of_placeholder?_eq_none h, l.textWith_of_placeholder?_eq_none f h,
      List.append_assoc]
  | some p =>
    rw [eq_placeholder_of_placeholder? h, prepend, List.nil_append, List.flatMap_cons,
      flatMap_textWith_close]
    rfl

/-- However placeholders are written, the text of the segments is that of the lexemes. -/
theorem flatMap_textWith_segmentsOf (ls : List Lexeme) :
    (segmentsOf ls).flatMap (Segment.textWith f) = ls.flatMap (Lexeme.textWith f) := by
  rw [segmentsOf, flatMap_textWith_close]
  induction ls with
  | nil => rfl
  | cons l ls ih => rw [List.foldr_cons, flatMap_textWith_prepend, ih, List.flatMap_cons]

end

/-- Segments print as the lexemes they were made of. -/
theorem printSegments_segmentsOf (ls : List Lexeme) :
    printSegments (segmentsOf ls) = printLexemes ls := by
  have hsegment : Segment.print = Segment.textWith Placeholder.print := by
    funext s
    cases s <;> rfl
  have hlexeme : Lexeme.print = Lexeme.textWith Placeholder.print := by
    funext l
    cases l <;> rfl
  rw [printSegments, hsegment, flatMap_textWith_segmentsOf, ← hlexeme, printLexemes]

/-! ## Placeholders stay where they are -/

theorem placeholders_close (acc : List Char × List Segment) :
    (prepend.close acc).filterMap Segment.placeholder? =
      acc.2.filterMap Segment.placeholder? := by
  unfold prepend.close
  split
  · rfl
  · rw [List.filterMap_cons_none rfl]

/-- The placeholders among the segments are those among the lexemes. -/
theorem placeholders_segmentsOf (ls : List Lexeme) :
    (segmentsOf ls).filterMap Segment.placeholder? = ls.filterMap Lexeme.placeholder? := by
  rw [segmentsOf, placeholders_close]
  induction ls with
  | nil => rfl
  | cons l ls ih =>
    rw [List.foldr_cons]
    cases h : l.placeholder? with
    | none => rw [prepend_of_placeholder?_eq_none h, List.filterMap_cons_none h, ih]
    | some p =>
      rw [List.filterMap_cons_some h, eq_placeholder_of_placeholder? h, ← ih,
        ← placeholders_close (ls.foldr prepend ([], []))]
      rfl

/-- In front of a placeholder the segments print as the lexemes do. -/
theorem exists_split_of_close {acc : List Char × List Segment} {ls : List Lexeme}
    (h : ∀ front p back, acc.2 = front ++ .placeholder p :: back →
      ∃ before after, ls = before ++ .placeholder p :: after ∧
        printLexemes before = acc.1 ++ printSegments front)
    {front back : List Segment} {p : Placeholder}
    (hs : prepend.close acc = front ++ .placeholder p :: back) :
    ∃ before after, ls = before ++ .placeholder p :: after ∧
      printLexemes before = printSegments front := by
  unfold prepend.close at hs
  split at hs
  · rename_i hempty
    have := h front p back hs
    rwa [List.isEmpty_iff.mp hempty, List.nil_append] at this
  · cases front with
    | nil => cases hs
    | cons s front =>
      rw [List.cons_append, List.cons.injEq] at hs
      obtain ⟨rfl, hs⟩ := hs
      have := h front p back hs
      rwa [printSegments_cons, Segment.print, String.toList_ofList]

theorem exists_split_of_foldr (ls : List Lexeme) :
    ∀ front p back, (ls.foldr prepend ([], [])).2 = front ++ .placeholder p :: back →
      ∃ before after, ls = before ++ .placeholder p :: after ∧
        printLexemes before = (ls.foldr prepend ([], [])).1 ++ printSegments front := by
  induction ls with
  | nil =>
    intro front p back h
    cases front <;> cases h
  | cons l ls ih =>
    intro front p back h
    rw [List.foldr_cons] at h ⊢
    cases hl : l.placeholder? with
    -- A character goes into the literal that is still open, in front of all segments.
    | none =>
      rw [prepend_of_placeholder?_eq_none hl] at h ⊢
      obtain ⟨before, after, rfl, hprint⟩ := ih front p back h
      refine ⟨l :: before, after, rfl, ?_⟩
      rw [printLexemes_cons, hprint, List.append_assoc]
    | some q =>
      rw [eq_placeholder_of_placeholder? hl] at h ⊢
      rw [prepend] at h ⊢
      cases front with
      | nil =>
        cases h
        exact ⟨[], ls, rfl, rfl⟩
      | cons s front =>
        rw [List.cons_append, List.cons.injEq] at h
        obtain ⟨rfl, h⟩ := h
        obtain ⟨before, after, rfl, hprint⟩ := exists_split_of_close ih h
        refine ⟨.placeholder q :: before, after, rfl, ?_⟩
        rw [printLexemes_cons, hprint]
        rfl

/-- A placeholder among the segments is one among the lexemes, behind the same text. -/
theorem exists_split_of_segmentsOf {ls : List Lexeme} {front back : List Segment}
    {p : Placeholder} (h : segmentsOf ls = front ++ .placeholder p :: back) :
    ∃ before after, ls = before ++ .placeholder p :: after ∧
      printLexemes before = printSegments front :=
  exists_split_of_close (exists_split_of_foldr ls) h

/-! ## Literal segments are maximal -/

/-- Segments in which no literal is empty and no two literals are next to each other. -/
structure Tight (segments : List Segment) : Prop where
  nonempty : ∀ text, .literal text ∈ segments → text ≠ ""
  apart : segments.IsChain fun a b => a.placeholder? ≠ none ∨ b.placeholder? ≠ none

theorem tight_nil : Tight [] where
  nonempty := by simp
  apart := List.isChain_nil

theorem Tight.cons_placeholder {segments : List Segment} (h : Tight segments)
    (p : Placeholder) : Tight (.placeholder p :: segments) where
  nonempty text hmem := h.nonempty text (by simpa using hmem)
  apart := List.isChain_cons.mpr ⟨fun _ _ => Or.inl (Option.some_ne_none p), h.apart⟩

/-- What follows a literal text that is still open is maximal and does not start with a literal. -/
theorem Tight.close {acc : List Char × List Segment} (h : Tight acc.2)
    (first : ∀ s ∈ acc.2.head?, s.placeholder? ≠ none) : Tight (prepend.close acc) := by
  unfold prepend.close
  split
  · exact h
  · rename_i hne
    have htext : String.ofList acc.1 ≠ "" := by
      rintro heq
      rw [← String.ofList_nil, String.ofList_inj] at heq
      exact hne (List.isEmpty_iff.mpr heq)
    constructor
    · intro text hmem
      rcases List.mem_cons.mp hmem with heq | hmem
      · cases heq
        exact htext
      · exact h.nonempty text hmem
    · exact List.isChain_cons.mpr ⟨fun s hs => Or.inr (first s hs), h.apart⟩

/-- Gathered segments are tight, and the literal that is still open is not followed by another. -/
theorem tight_foldr (ls : List Lexeme) :
    Tight (ls.foldr prepend ([], [])).2 ∧
      ∀ s ∈ (ls.foldr prepend ([], [])).2.head?, s.placeholder? ≠ none := by
  induction ls with
  | nil => exact ⟨tight_nil, by simp⟩
  | cons l ls ih =>
    obtain ⟨hmax, hfirst⟩ := ih
    rw [List.foldr_cons]
    cases h : l.placeholder? with
    | none =>
      rw [prepend_of_placeholder?_eq_none h]
      exact ⟨hmax, hfirst⟩
    | some p =>
      rw [eq_placeholder_of_placeholder? h, prepend]
      refine ⟨(hmax.close hfirst).cons_placeholder p, ?_⟩
      intro s hs
      cases hs
      exact Option.some_ne_none p

/-- No two literals meet, and none is empty. -/
theorem tight_segmentsOf (ls : List Lexeme) : Tight (segmentsOf ls) :=
  (tight_foldr ls).1.close (tight_foldr ls).2

end Courier.Template
