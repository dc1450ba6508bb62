import Courier.Time.Reading
import Courier.Proofs.Template.Lossless

/-!
# Patterns are compiled by longest match

Compiling tries the tokens in the order of a table and gathers the text between them. As the table
has longer spellings first, the token that is found is the longest one, and as the gathered text is
put in front of each token, nothing is lost or moved: a pattern is written as the pieces that it is
read as.
-/

namespace Courier.Time

/-! ## Tokens -/

namespace DateToken

theorem mem_all (token : DateToken) : token ∈ all := by
  cases token <;> decide

/-- The table never has a longer spelling after a shorter one. -/
theorem pairwise_all : all.Pairwise fun a b => b.spelling.length ≤ a.spelling.length := by
  decide

/-- No two tokens are spelt alike. -/
theorem spelling_injective {a b : DateToken} (h : a.spelling = b.spelling) : a = b := by
  have hfind : ∀ token : DateToken, all.find? (·.spelling == token.spelling) = some token := by
    intro token
    cases token <;> rfl
  have hsome : some a = some b := by rw [← hfind a, ← hfind b, h]
  exact Option.some.inj hsome

theorem spelling_ne_nil (token : DateToken) : token.spelling.toList ≠ [] := by
  cases token <;> decide

end DateToken

/-- There is only one longest token. -/
theorem IsLongestToken.unique {a b : DateToken} {cs : List Char} (ha : IsLongestToken a cs)
    (hb : IsLongestToken b cs) : a = b := by
  have hlength : a.spelling.toList.length = b.spelling.toList.length := by
    have hab := ha.longest b hb.starts
    have hba := hb.longest a ha.starts
    rw [String.length_toList, String.length_toList]
    omega
  have hstarts := List.prefix_of_prefix_length_le ha.starts hb.starts hlength.le
  apply DateToken.spelling_injective
  rw [← String.toList_inj]
  exact hstarts.eq_of_length hlength

namespace DateToken

theorem match?_eq_none_iff {cs : List Char} :
    match? cs = none ↔ ∀ token : DateToken, ¬ token.spelling.toList <+: cs := by
  rw [match?, List.findSome?_eq_none_iff]
  constructor
  · intro h token starts
    have hnone := h token (mem_all token)
    rw [if_pos (List.isPrefixOf_iff_prefix.mpr starts)] at hnone
    cases hnone
  · intro h token _
    exact if_neg fun starts => h token (List.isPrefixOf_iff_prefix.mp starts)

/-- The first token of the table that a text starts with is the longest. -/
theorem longest_of_match? {cs after : List Char} {token : DateToken}
    (h : match? cs = some (token, after)) :
    IsLongestToken token cs ∧ cs = token.spelling.toList ++ after := by
  obtain ⟨front, found, back, hall, hfound, hfront⟩ := List.findSome?_eq_some_iff.mp h
  by_cases starts : found.spelling.toList.isPrefixOf cs
  · rw [if_pos starts] at hfound
    cases hfound
    have hstarts := List.isPrefixOf_iff_prefix.mp starts
    refine ⟨⟨hstarts, ?_⟩, ?_⟩
    · intro other hother
      have hmem := mem_all other
      have hsorted := pairwise_all
      rw [hall] at hmem hsorted
      rcases List.mem_append.mp hmem with before | behind
      · -- It would have been found first.
        have hnone := hfront other before
        rw [if_pos (List.isPrefixOf_iff_prefix.mpr hother)] at hnone
        cases hnone
      · rcases List.mem_cons.mp behind with rfl | behind
        · exact Nat.le_refl _
        · exact (List.pairwise_cons.mp (List.pairwise_append.mp hsorted).2.1).1 other behind
    · rw [← String.length_toList]
      exact (List.prefix_iff_eq_append.mp hstarts).symm
  · rw [if_neg starts] at hfound
    cases hfound

/-- The longest token is the first of the table that the text starts with. -/
theorem match?_of_longest {cs after : List Char} {token : DateToken}
    (longest : IsLongestToken token cs) (hcs : cs = token.spelling.toList ++ after) :
    match? cs = some (token, after) := by
  cases h : match? cs with
  | none => exact absurd longest.starts (match?_eq_none_iff.mp h token)
  | some found =>
    obtain ⟨token', after'⟩ := found
    obtain ⟨longest', hcs'⟩ := longest_of_match? h
    obtain rfl := longest.unique longest'
    rw [List.append_cancel_left (hcs'.symm.trans hcs)]

end DateToken

/-! ## Brackets -/

namespace Pattern

/-- A bracket is closed by the nearest one. -/
theorem bracketed?_of_nearest {text after : List Char} (nearest : ']' ∉ text) :
    bracketed? ('[' :: text ++ ']' :: after) = some (text, after) := by
  have hall : ∀ c ∈ text, (c != ']') = true := by
    intro c hc
    have hne : c ≠ ']' := fun heq => nearest (heq ▸ hc)
    simpa using hne
  rw [List.cons_append, bracketed?, List.dropWhile_append_of_pos hall,
    List.takeWhile_append_of_pos hall]
  simp

theorem nearest_of_bracketed? {cs text after : List Char}
    (h : bracketed? cs = some (text, after)) :
    cs = '[' :: text ++ ']' :: after ∧ ']' ∉ text := by
  unfold bracketed? at h
  split at h
  · rename_i rest
    split at h
    · rename_i c tail hdrop
      cases h
      have hc : c = ']' := by
        have := List.head?_dropWhile_not (· != ']') rest
        rw [hdrop] at this
        simpa using this
      subst hc
      refine ⟨?_, ?_⟩
      · rw [List.cons_append, ← hdrop, List.takeWhile_append_dropWhile]
      · intro hmem
        have := List.all_eq_true.mp List.all_takeWhile ']' hmem
        simp at this
    · cases h
  · cases h

/-- No bracketed text is found just when none is opened and closed. -/
theorem bracketed?_eq_none_iff {cs : List Char} : bracketed? cs = none ↔ ¬ OpensBracket cs := by
  constructor
  · intro h opens
    obtain ⟨rest, rfl, closed⟩ := opens
    obtain ⟨text, after, rfl, nearest⟩ := List.eq_append_cons_of_mem closed
    have hsome : bracketed? ('[' :: (text ++ ']' :: after)) = some (text, after) :=
      bracketed?_of_nearest nearest
    rw [h] at hsome
    cases hsome
  · intro h
    cases hb : bracketed? cs with
    | none => rfl
    | some found =>
      obtain ⟨hcs, -⟩ := nearest_of_bracketed? hb
      exact absurd ⟨_, hcs, by simp⟩ h

end Pattern

/-! ## Readings -/

open Pattern

/-- What is found at the front of a text that starts with this piece. -/
theorem PatternPiece.Fits.found {piece : PatternPiece} {after : List Char}
    (fits : piece.Fits (piece.print ++ after)) :
    match piece with
    | .bracketed text => bracketed? (piece.print ++ after) = some (text, after)
    | .field token => bracketed? (piece.print ++ after) = none ∧
        DateToken.match? (piece.print ++ after) = some (token, after)
    | .plain _ => bracketed? (piece.print ++ after) = none ∧
        DateToken.match? (piece.print ++ after) = none := by
  cases piece with
  | bracketed text =>
    have hprint : PatternPiece.print (.bracketed text) ++ after = '[' :: text ++ ']' :: after := by
      simp [PatternPiece.print]
    dsimp only
    rw [hprint]
    exact bracketed?_of_nearest fits
  | field token =>
    exact ⟨bracketed?_eq_none_iff.mpr fits.1, DateToken.match?_of_longest fits.2 rfl⟩
  | plain c => exact ⟨bracketed?_eq_none_iff.mpr fits.1, DateToken.match?_eq_none_iff.mpr fits.2⟩

/-- A text starts with one piece only. -/
theorem PatternPiece.Fits.unique {piece other : PatternPiece} {after after' : List Char}
    (h : piece.print ++ after = other.print ++ after') (fits : piece.Fits (piece.print ++ after))
    (fits' : other.Fits (other.print ++ after')) : piece = other ∧ after = after' := by
  have found := fits.found
  have found' := fits'.found
  rw [h] at found
  cases piece <;> cases other <;> simp_all [PatternPiece.print]

theorem PatternPiece.print_ne_nil (piece : PatternPiece) : piece.print ≠ [] := by
  cases piece with
  | bracketed text => exact List.cons_ne_nil _ _
  | field token => exact token.spelling_ne_nil
  | plain c => exact List.cons_ne_nil _ _

/-- A reading begins with a piece, unless there is nothing to read. -/
theorem ReadsAs.first {cs : List Char} {pieces : List PatternPiece} (h : ReadsAs cs pieces) :
    (cs = [] ∧ pieces = []) ∨ ∃ piece after later, cs = piece.print ++ after ∧
      pieces = piece :: later ∧ piece.Fits (piece.print ++ after) ∧ ReadsAs after later := by
  cases h with
  | done => exact Or.inl ⟨rfl, rfl⟩
  | next fits later => exact Or.inr ⟨_, _, _, rfl, rfl, fits, later⟩

/-- A text is read in one way only. -/
theorem ReadsAs.unique {cs : List Char} {pieces other : List PatternPiece} (h : ReadsAs cs pieces)
    (h' : ReadsAs cs other) : other = pieces := by
  induction h generalizing other with
  | done =>
    rcases h'.first with ⟨-, rfl⟩ | ⟨piece, after, later, hcs, -⟩
    · rfl
    · exact absurd (List.append_eq_nil_iff.mp hcs.symm).1 piece.print_ne_nil
  | @next piece after pieces fits _ ih =>
    rcases h'.first with ⟨hcs, -⟩ | ⟨piece', after', later, hcs, rfl, fits', hlater⟩
    · exact absurd (List.append_eq_nil_iff.mp hcs).1 piece.print_ne_nil
    · obtain ⟨rfl, rfl⟩ := PatternPiece.Fits.unique hcs fits fits'
      rw [ih hlater]

/-- A text is written as the pieces that it is read as. -/
theorem ReadsAs.print_eq {cs : List Char} {pieces : List PatternPiece} (h : ReadsAs cs pieces) :
    pieces.flatMap PatternPiece.print = cs := by
  induction h with
  | done => rfl
  | next _ _ ih => rw [List.flatMap_cons, ih]

theorem flatMap_withText (t : Instant) (text : List Char) (items : List PatternItem) :
    (withText text items).flatMap (PatternItem.render t) =
      text ++ items.flatMap (PatternItem.render t) := by
  cases text <;> rfl

/-- At each place the front of the text decides how to go on. -/
theorem itemsFrom_cons (pending : List Char) (c : Char) (rest : List Char) :
    itemsFrom pending (c :: rest) = match bracketed? (c :: rest) with
      | some (text, after) => itemsFrom (pending ++ text) after
      | none => match DateToken.match? (c :: rest) with
        | some (token, after) => withText pending (.field token :: itemsFrom [] after)
        | none => itemsFrom (pending ++ [c]) rest := by
  rw [itemsFrom]
  split
  · rename_i hb
    simp only [hb]
  · rename_i hb
    simp only [hb]
    split
    all_goals
      rename_i hm
      simp only [hm]

/-- What is compiled is written as the text gathered so far and then the pieces that follow. -/
theorem exists_pieces_of_itemsFrom (pending cs : List Char) :
    ∃ pieces, ReadsAs cs pieces ∧ ∀ t,
      (itemsFrom pending cs).flatMap (PatternItem.render t) =
        pending ++ pieces.flatMap (PatternPiece.render t) := by
  induction pending, cs using itemsFrom.induct with
  | case1 pending =>
    refine ⟨[], .done, ?_⟩
    intro t
    rw [itemsFrom, flatMap_withText]
    rfl
  | case2 pending c rest text after hb _ ih =>
    obtain ⟨pieces, reads, written⟩ := ih
    obtain ⟨hcs, nearest⟩ := nearest_of_bracketed? hb
    have hprint : c :: rest = PatternPiece.print (.bracketed text) ++ after := by
      simpa [PatternPiece.print] using hcs
    refine ⟨.bracketed text :: pieces, hprint ▸ .next nearest reads, ?_⟩
    intro t
    rw [itemsFrom_cons, hb]
    show (itemsFrom (pending ++ text) after).flatMap (PatternItem.render t) = _
    rw [written t, List.append_assoc, List.flatMap_cons]
    rfl
  | case3 pending c rest token after hb hm _ ih =>
    obtain ⟨pieces, reads, written⟩ := ih
    obtain ⟨longest, hcs⟩ := DateToken.longest_of_match? hm
    have hprint : c :: rest = PatternPiece.print (.field token) ++ after := hcs
    have fits : PatternPiece.Fits (PatternPiece.print (.field token) ++ after) (.field token) := by
      rw [← hprint]
      exact ⟨bracketed?_eq_none_iff.mp hb, longest⟩
    refine ⟨.field token :: pieces, hprint ▸ .next fits reads, ?_⟩
    intro t
    rw [itemsFrom_cons, hb]
    simp only [hm]
    rw [flatMap_withText, List.flatMap_cons, List.flatMap_cons, written t]
    rfl
  | case4 pending c rest hb hm ih =>
    obtain ⟨pieces, reads, written⟩ := ih
    have fits : PatternPiece.Fits (PatternPiece.print (.plain c) ++ rest) (.plain c) :=
      ⟨bracketed?_eq_none_iff.mp hb, DateToken.match?_eq_none_iff.mp hm⟩
    refine ⟨.plain c :: pieces, .next fits reads, ?_⟩
    intro t
    rw [itemsFrom_cons, hb]
    simp only [hm]
    rw [written t, List.append_assoc, List.flatMap_cons]
    rfl

/-- Where a row of pieces is cut, the text is cut between characters. -/
theorem isValid_of_pieces {text : String} {front pieces : List PatternPiece}
    (hprint : pieces.flatMap PatternPiece.print = text.toList) (hfront : front <+: pieces) :
    String.Pos.Raw.IsValid text ⟨Text.byteLength (front.flatMap PatternPiece.print)⟩ := by
  obtain ⟨back, rfl⟩ := hfront
  rw [List.flatMap_append] at hprint
  rw [← String.ofList_toList (s := text), ← hprint]
  exact Template.isValid_of_append _ _

/-- Every pattern is read in one way, and at every instant it is written as it is read. -/
theorem exists_isReadAs (text : String) : ∃ pieces, IsReadAs text pieces := by
  obtain ⟨pieces, reads, written⟩ := exists_pieces_of_itemsFrom [] text.toList
  have hprint := reads.print_eq
  refine ⟨pieces, ?_⟩
  constructor
  case reads => exact reads
  case unique => exact fun other => reads.unique
  case print_eq => exact hprint
  case print_ne_nil => exact fun piece _ => piece.print_ne_nil
  case boundary => exact fun front => isValid_of_pieces hprint
  case format_eq =>
    intro t
    show String.ofList ((itemsFrom [] text.toList).flatMap (PatternItem.render t)) = _
    rw [written t, List.nil_append]

/-- Three of a kind leave one over, two where only three are a token are characters, a bracket
within brackets is text, and so is one that is never closed. -/
example :
    let t : Instant := ⟨1709820309, 42000000, by decide, by decide, by decide, by decide⟩
    (compile "YYYSS[a[b]]é[x").format t = "24YSSa[b]é[1709820309042" := by
  decide +kernel

end Courier.Time
