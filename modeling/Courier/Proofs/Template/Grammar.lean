import Courier.Proofs.Template.Brace
import Courier.Proofs.Template.Segments

/-!
# A field parses exactly when it divides into lexemes

`lex` finds the one row of lexemes that a text divides into, and fails when there is none. The
proofs go by way of `Row`, the grammar read from left to right: it knows the byte position and the
number of literal braces that are open.
-/

namespace Courier.Template

/-- The rows that can stand at byte position `pos` inside `depth` literal braces. -/
inductive Row : Nat → Nat → List Lexeme → Prop where
  | nil {pos : Nat} : Row pos 0 []
  | plain {pos depth : Nat} {c : Char} {rest : List Lexeme} (noBrace : isBrace c = false)
    (tail : Row (pos + c.utf8Size) depth rest) : Row pos depth (.plain c :: rest)
  | opening {pos depth : Nat} {rest : List Lexeme} (literal : OpensLiteral (printLexemes rest))
    (tail : Row (pos + 1) (depth + 1) rest) : Row pos depth (.opening :: rest)
  | closing {pos depth : Nat} {rest : List Lexeme} (tail : Row (pos + 1) depth rest) :
    Row pos (depth + 1) (.closing :: rest)
  | placeholder {pos depth : Nat} {p : Placeholder} {rest : List Lexeme}
    (placed : p = Placeholder.at pos p.name p.format)
    (braceless : ∀ f, p.format = some f → Braceless f.toList) (tail : Row p.stop depth rest) :
    Row pos depth (.placeholder p :: rest)

/-! ## Reading a row -/

/-- Inside a literal brace a closing brace is still to come. -/
theorem closing_mem_of_row {pos depth : Nat} {ls : List Lexeme} (h : Row pos (depth + 1) ls) :
    '}' ∈ printLexemes ls := by
  generalize hd : depth + 1 = d at h
  induction h generalizing depth with
  | nil => cases hd
  | plain _ _ ih =>
    rw [printLexemes_cons]
    exact List.mem_append_right _ (ih hd)
  | opening _ _ ih =>
    rw [printLexemes_cons]
    exact List.mem_append_right _ (ih rfl)
  | closing _ _ =>
    rw [printLexemes_cons]
    exact List.mem_append_left _ (List.mem_singleton.mpr rfl)
  | placeholder _ _ _ ih =>
    rw [printLexemes_cons]
    exact List.mem_append_right _ (ih hd)

/-- Whether a brace is literal is settled by what follows it, once a closing brace does. -/
theorem opensLiteral_of_readBrace {pos : Nat} {rest : List Char}
    (h : readBrace pos rest = .ok none) (closes : '}' ∈ rest) : OpensLiteral rest := by
  obtain ⟨hno, hall⟩ := readBrace_eq_none_iff.mp h
  obtain ⟨body, after, hrest, hbody⟩ := List.eq_append_cons_of_mem closes
  exact ⟨hno, body, after, hrest, hbody, hall body after hrest hbody⟩

/-- The part in front of the first closing brace is one and the same. -/
theorem eq_of_split_at_closing {body body' after after' : List Char} (hbody : '}' ∉ body)
    (hbody' : '}' ∉ body') (h : body ++ '}' :: after = body' ++ '}' :: after') : body = body' := by
  have key : ∀ {front tail : List Char}, '}' ∉ front →
      (front ++ '}' :: tail).takeWhile (· != '}') = front := by
    intro front tail hfront
    have hall : ∀ c ∈ front, (c != '}') = true := by
      intro c hc
      have : c ≠ '}' := fun he => hfront (he ▸ hc)
      simpa using this
    rw [List.takeWhile_append_of_pos hall, List.takeWhile_cons_of_neg (by simp), List.append_nil]
  rw [← key hbody, h, key hbody']

/-- A front part without a closing brace lies in front of the first one. -/
theorem exists_append_of_split {front more body after : List Char} (hfront : '}' ∉ front)
    (h : front ++ more = body ++ '}' :: after) : ∃ tail, body = front ++ tail := by
  rcases List.append_eq_append_iff.mp h with ⟨tail, hbody, -⟩ | ⟨tail, heq, htail⟩
  · exact ⟨tail, hbody⟩
  · cases tail with
    | nil => exact ⟨[], by rw [heq, List.append_nil, List.append_nil]⟩
    | cons c tail =>
      cases htail
      exact absurd (by simp [heq]) hfront

/-- A brace that opens a literal is read as one. -/
theorem readBrace_of_opensLiteral {pos : Nat} {rest : List Char} (h : OpensLiteral rest) :
    readBrace pos rest = .ok none := by
  refine readBrace_eq_none_iff.mpr ⟨h.toOpensNoName, ?_⟩
  intro body after hrest hbody
  obtain ⟨body', after', hrest', hbody', hs⟩ := h.structural
  rwa [eq_of_split_at_closing hbody hbody' (hrest ▸ hrest')]

/-- At an opening brace the answer to it decides how to go on. -/
theorem lexFrom_brace (pos : Nat) (opened : List Nat) (before : List Lexeme) (rest : List Char) :
    lexFrom pos opened before ('{' :: rest) = match readBrace pos rest with
      | .error e => .error e
      | .ok none => lexFrom (pos + 1) (pos :: opened) (.opening :: before) rest
      | .ok (some (p, after)) => lexFrom p.stop opened (.placeholder p :: before) after := by
  rw [lexFrom]
  split
  all_goals
    rename_i hbrace
    simp only [hbrace]

/-- A plain character is a lexeme by itself. -/
theorem lexFrom_plain {c : Char} (hopen : c ≠ '{') (hclose : c ≠ '}') (pos : Nat)
    (opened : List Nat) (before : List Lexeme) (rest : List Char) :
    lexFrom pos opened before (c :: rest) =
      lexFrom (pos + c.utf8Size) opened (.plain c :: before) rest := by
  rw [lexFrom]
  · exact hopen
  · exact hclose

/-- What is read from a position on is a row for that position and for the braces open there. -/
theorem row_of_lexFrom {pos : Nat} {opened : List Nat} {before : List Lexeme} {cs : List Char}
    {out : List Lexeme} (h : lexFrom pos opened before cs = .ok out) :
    ∃ ls, out = before.reverse ++ ls ∧ printLexemes ls = cs ∧ Row pos opened.length ls := by
  fun_induction lexFrom pos opened before cs with
  | case1 pos opened before start hlast => cases h
  | case2 pos opened before hlast =>
    cases h
    rw [List.getLast?_eq_none_iff.mp hlast]
    exact ⟨[], (List.append_nil _).symm, rfl, .nil⟩
  | case3 pos opened before rest e hbrace => cases h
  | case4 pos opened before rest hbrace ih =>
    obtain ⟨ls, rfl, rfl, hrow⟩ := ih h
    -- The row that follows closes this brace, so that there must be a sign of JSON before that.
    have literal := opensLiteral_of_readBrace hbrace (closing_mem_of_row hrow)
    exact ⟨.opening :: ls, by simp, rfl, .opening literal hrow⟩
  | case5 pos opened before rest p after hbrace _ ih =>
    obtain ⟨ls, rfl, rfl, hrow⟩ := ih h
    obtain ⟨placed, braceless, hprint⟩ := readBrace_eq_some_iff.mp hbrace
    exact ⟨.placeholder p :: ls, by simp, hprint, .placeholder placed braceless hrow⟩
  | case6 pos before rest => cases h
  | case7 pos before rest _ outer ih =>
    obtain ⟨ls, rfl, rfl, hrow⟩ := ih h
    exact ⟨.closing :: ls, by simp, rfl, .closing hrow⟩
  | case8 pos opened before c rest hopen hclose ih =>
    obtain ⟨ls, rfl, rfl, hrow⟩ := ih h
    have noBrace : isBrace c = false := by simpa [isBrace] using ⟨hopen, hclose⟩
    exact ⟨.plain c :: ls, by simp, rfl, .plain noBrace hrow⟩

/-- What follows a literal brace and its closing brace has no say in whether it is literal. -/
theorem OpensLiteral.append {rest : List Char} (h : OpensLiteral rest) (tail : List Char) :
    OpensLiteral (rest ++ tail) := by
  obtain ⟨body, after, hrest, hbody, hs⟩ := h.structural
  exact ⟨h.toOpensNoName.append tail, body, after ++ tail, by simp [hrest], hbody, hs⟩

/-- Whether a brace is literal is decided by the nearest closing one. -/
theorem OpensLiteral.of_append {front back : List Char} (h : OpensLiteral (front ++ back))
    (closes : '}' ∈ front) : OpensLiteral front := by
  obtain ⟨body, after, hsplit, hbody, hs⟩ := h.structural
  obtain ⟨body', after', rfl, hbody'⟩ := List.eq_append_cons_of_mem closes
  rw [List.append_assoc, List.cons_append] at hsplit
  obtain rfl := eq_of_split_at_closing hbody' hbody hsplit
  exact ⟨h.toOpensNoName.of_append closes, body', after', rfl, hbody, hs⟩

/-- Every row for a position and the braces open there is read, and what follows it is read with no
brace open. -/
theorem lexFrom_row_append {pos depth : Nat} {ls : List Lexeme} (h : Row pos depth ls)
    (tail : List Char) : ∀ (opened : List Nat) (before : List Lexeme), opened.length = depth →
      lexFrom pos opened before (printLexemes ls ++ tail) =
        lexFrom (pos + Text.byteLength (printLexemes ls)) [] (ls.reverse ++ before) tail := by
  induction h with
  | nil =>
    intro opened before hd
    rw [List.length_eq_zero_iff.mp hd]
    rfl
  | @plain pos depth c rest noBrace row ih =>
    intro opened before hd
    have hopen : c ≠ '{' := by rintro rfl; cases noBrace
    have hclose : c ≠ '}' := by rintro rfl; cases noBrace
    rw [printLexemes_cons, Lexeme.print, List.singleton_append, List.cons_append,
      lexFrom_plain hopen hclose, ih opened _ hd]
    simp [Nat.add_assoc]
  | @opening pos depth rest literal row ih =>
    intro opened before hd
    -- What makes the brace literal is in the row, ahead of the tail.
    have hbrace : readBrace pos (printLexemes rest ++ tail) = .ok none :=
      readBrace_of_opensLiteral (literal.append tail)
    rw [printLexemes_cons, Lexeme.print, List.singleton_append, List.cons_append, lexFrom_brace,
      hbrace]
    dsimp only
    rw [ih (pos :: opened) _ (by simp [hd])]
    simp [Nat.add_assoc, show '{'.utf8Size = 1 from rfl]
  | @closing pos depth rest row ih =>
    intro opened before hd
    cases opened with
    | nil => cases hd
    | cons start outer =>
      rw [printLexemes_cons, Lexeme.print, List.singleton_append, List.cons_append, lexFrom,
        ih outer _ (by simpa using hd)]
      simp [Nat.add_assoc, show '}'.utf8Size = 1 from rfl]
  | @placeholder pos depth p rest placed braceless row ih =>
    intro opened before hd
    -- Only the first brace is needed to see how reading goes on.
    obtain ⟨body, hbody⟩ : ∃ body, p.print = '{' :: body := by
      unfold Placeholder.print written
      cases p.format <;> exact ⟨_, rfl⟩
    have hbrace : readBrace pos (body ++ (printLexemes rest ++ tail)) =
        .ok (some (p, printLexemes rest ++ tail)) :=
      readBrace_eq_some_iff.mpr ⟨placed, braceless, by rw [hbody, List.cons_append]⟩
    have hstop := Placeholder.stop_eq placed
    rw [printLexemes_cons, Lexeme.print, Text.byteLength_append, ← Nat.add_assoc, ← hstop, hbody,
      List.append_assoc, List.cons_append, lexFrom_brace, hbrace]
    dsimp only
    rw [ih opened _ hd]
    simp

/-- A row of lexemes is read back from its text. -/
theorem lexFrom_of_row {pos depth : Nat} {ls : List Lexeme} (h : Row pos depth ls)
    (opened : List Nat) (before : List Lexeme) (hd : opened.length = depth) :
    lexFrom pos opened before (printLexemes ls) = .ok (before.reverse ++ ls) := by
  have := lexFrom_row_append h [] opened before hd
  rw [List.append_nil] at this
  rw [this, lexFrom]
  simp

/-! ## Balance -/

/-- The literal braces of a row pair up inside `depth` open ones. -/
structure BalancedIn (depth : Nat) (ls : List Lexeme) : Prop where
  sane : ∀ front, front <+: ls → front.count .closing ≤ depth + front.count .opening
  settled : ls.count .closing = depth + ls.count .opening

/-- Being balanced is being balanced with nothing open. -/
theorem balanced_iff {ls : List Lexeme} : Balanced ls ↔ BalancedIn 0 ls := by
  constructor
  · intro h
    exact ⟨fun front hf => (Nat.zero_add _).symm ▸ h.sane front hf,
      (Nat.zero_add _).symm ▸ h.settled⟩
  · intro h
    exact ⟨fun front hf => Nat.zero_add (front.count .opening) ▸ h.sane front hf,
      Nat.zero_add (ls.count .opening) ▸ h.settled⟩

theorem balancedIn_nil {depth : Nat} : BalancedIn depth [] ↔ depth = 0 := by
  constructor
  · intro h
    exact h.settled.symm
  · rintro rfl
    refine ⟨?_, rfl⟩
    intro front hf
    rw [List.prefix_nil.mp hf]
    exact Nat.zero_le _

theorem count_cons_eq_add (a l : Lexeme) (ls : List Lexeme) :
    (l :: ls).count a = [l].count a + ls.count a := by
  rw [← List.singleton_append, List.count_append]

/-- After a lexeme the rest pairs up inside as many braces as are open then. -/
theorem balancedIn_cons {depth depth' : Nat} {l : Lexeme} {ls : List Lexeme}
    (h : depth' + [l].count .closing = depth + [l].count .opening) :
    BalancedIn depth (l :: ls) ↔ BalancedIn depth' ls := by
  constructor
  · rintro ⟨sane, settled⟩
    constructor
    · intro front hf
      have := sane (l :: front) (List.cons_prefix_cons.mpr ⟨rfl, hf⟩)
      rw [count_cons_eq_add, count_cons_eq_add .opening] at this
      omega
    · rw [count_cons_eq_add, count_cons_eq_add .opening] at settled
      omega
  · rintro ⟨sane, settled⟩
    constructor
    · intro front hf
      -- A front part is empty or goes on with the first lexeme.
      rcases List.prefix_cons_iff.mp hf with rfl | ⟨tail, rfl, htail⟩
      · exact Nat.zero_le _
      · have := sane tail htail
        rw [count_cons_eq_add, count_cons_eq_add .opening]
        omega
    · rw [count_cons_eq_add, count_cons_eq_add .opening]
      omega

theorem balancedIn_opening {depth : Nat} {ls : List Lexeme} :
    BalancedIn depth (.opening :: ls) ↔ BalancedIn (depth + 1) ls :=
  balancedIn_cons rfl

/-- A closing brace takes one of those that are open. -/
theorem balancedIn_closing {depth : Nat} {ls : List Lexeme} :
    BalancedIn depth (.closing :: ls) ↔ ∃ outer, depth = outer + 1 ∧ BalancedIn outer ls := by
  constructor
  · intro h
    -- The brace alone is a front part, so it closes one of the open ones.
    have first : 1 ≤ depth := h.sane [.closing] (List.cons_prefix_cons.mpr ⟨rfl, List.nil_prefix⟩)
    obtain ⟨outer, rfl⟩ := Nat.exists_eq_add_of_le' first
    exact ⟨outer, rfl, (balancedIn_cons rfl).mp h⟩
  · rintro ⟨outer, rfl, h⟩
    exact (balancedIn_cons rfl).mpr h

/-- Only literal braces count. -/
theorem balancedIn_other {depth : Nat} {l : Lexeme} {ls : List Lexeme} (ho : l ≠ .opening)
    (hc : l ≠ .closing) : BalancedIn depth (l :: ls) ↔ BalancedIn depth ls := by
  refine balancedIn_cons ?_
  rw [List.count_singleton, List.count_singleton, if_neg (by simpa using hc),
    if_neg (by simpa using ho)]

/-! ## Fit -/

/-- Each lexeme of a row that starts at byte position `pos` fits the place it stands at. -/
def FitsFrom (pos : Nat) (ls : List Lexeme) : Prop :=
  ∀ before l after, ls = before ++ l :: after →
    l.Fits (pos + Text.byteLength (printLexemes before)) (printLexemes after)

theorem fitsFrom_nil (pos : Nat) : FitsFrom pos [] := by
  intro before l after h
  cases before <;> cases h

theorem fitsFrom_cons {pos : Nat} {l : Lexeme} {ls : List Lexeme} :
    FitsFrom pos (l :: ls) ↔
      l.Fits pos (printLexemes ls) ∧ FitsFrom (pos + Text.byteLength l.print) ls := by
  constructor
  · intro h
    refine ⟨h [] l ls rfl, ?_⟩
    intro before l' after hls
    have := h (l :: before) l' after (congrArg (l :: ·) hls)
    rwa [printLexemes_cons, Text.byteLength_append, ← Nat.add_assoc] at this
  · rintro ⟨first, rest⟩ before l' after hls
    cases before with
    | nil =>
      cases hls
      exact first
    | cons b before =>
      rw [List.cons_append, List.cons.injEq] at hls
      obtain ⟨rfl, hls⟩ := hls
      have := rest before l' after hls
      rwa [Nat.add_assoc, ← Text.byteLength_append, ← printLexemes_cons] at this

/-- The grammar read from left to right is the grammar. -/
theorem row_iff {pos depth : Nat} {ls : List Lexeme} :
    Row pos depth ls ↔ FitsFrom pos ls ∧ BalancedIn depth ls := by
  induction ls generalizing pos depth with
  | nil =>
    constructor
    · rintro ⟨⟩
      exact ⟨fitsFrom_nil pos, balancedIn_nil.mpr rfl⟩
    · rintro ⟨-, balance⟩
      rw [balancedIn_nil.mp balance]
      exact .nil
  | cons l ls ih =>
    rw [fitsFrom_cons]
    cases l with
    | plain c =>
      rw [balancedIn_other (by simp) (by simp)]
      constructor
      · rintro ⟨⟩
        rename_i noBrace tail
        exact ⟨⟨noBrace, (ih.mp tail).1⟩, (ih.mp tail).2⟩
      · rintro ⟨⟨noBrace, fits⟩, balance⟩
        exact .plain noBrace (ih.mpr ⟨fits, balance⟩)
    | opening =>
      rw [balancedIn_opening]
      constructor
      · rintro ⟨⟩
        rename_i literal tail
        exact ⟨⟨literal, (ih.mp tail).1⟩, (ih.mp tail).2⟩
      · rintro ⟨⟨literal, fits⟩, balance⟩
        exact .opening literal (ih.mpr ⟨fits, balance⟩)
    | closing =>
      rw [balancedIn_closing]
      constructor
      · rintro ⟨⟩
        rename_i outer tail
        exact ⟨⟨trivial, (ih.mp tail).1⟩, outer, rfl, (ih.mp tail).2⟩
      · rintro ⟨⟨-, fits⟩, outer, rfl, balance⟩
        exact .closing (ih.mpr ⟨fits, balance⟩)
    | placeholder p =>
      rw [balancedIn_other (by simp) (by simp)]
      constructor
      · rintro ⟨⟩
        rename_i braceless placed tail
        rw [Placeholder.stop_eq placed] at tail
        exact ⟨⟨⟨placed, braceless⟩, (ih.mp tail).1⟩, (ih.mp tail).2⟩
      · rintro ⟨⟨⟨placed, braceless⟩, fits⟩, balance⟩
        refine .placeholder placed braceless ?_
        rw [Placeholder.stop_eq placed]
        exact ih.mpr ⟨fits, balance⟩

/-! ## Fields -/

/-- A text divides into a row of lexemes that it is written as. -/
theorem divides_iff_row {cs : List Char} {ls : List Lexeme} :
    Divides cs ls ↔ printLexemes ls = cs ∧ Row 0 0 ls := by
  have hfits : FitsFrom 0 ls ↔ ∀ before l after, ls = before ++ l :: after →
      l.Fits (Text.byteLength (printLexemes before)) (printLexemes after) := by
    simp only [FitsFrom, Nat.zero_add]
  rw [row_iff, hfits, ← balanced_iff]
  exact ⟨fun h => ⟨h.print_eq, h.fits, h.balanced⟩, fun h => ⟨h.1, h.2.1, h.2.2⟩⟩

/-- `lex` finds the row that a text divides into. -/
theorem lex_eq_ok_iff {cs : List Char} {ls : List Lexeme} : lex cs = .ok ls ↔ Divides cs ls := by
  rw [divides_iff_row]
  constructor
  · intro h
    obtain ⟨row, rfl, hprint, hrow⟩ := row_of_lexFrom h
    exact ⟨hprint, hrow⟩
  · rintro ⟨rfl, hrow⟩
    exact lexFrom_of_row hrow [] [] rfl

/-- A field is parsed when its text divides, into the segments of the lexemes. -/
theorem parse_eq_ok_iff {text : String} {f : Field} :
    Field.parse text = .ok f ↔
      ∃ ls, Divides text.toList ls ∧ f = ⟨text, segmentsOf ls⟩ := by
  unfold Field.parse
  constructor
  · intro h
    cases hlex : lex text.toList with
    | error e =>
      rw [hlex] at h
      cases h
    | ok ls =>
      rw [hlex] at h
      cases h
      exact ⟨ls, lex_eq_ok_iff.mp hlex, rfl⟩
  · rintro ⟨ls, hls, rfl⟩
    rw [lex_eq_ok_iff.mpr hls]
    rfl

/-- A text has one division at most. -/
theorem Divides.unique {cs : List Char} {ls ls' : List Lexeme} (h : Divides cs ls)
    (h' : Divides cs ls') : ls = ls' := by
  have := (lex_eq_ok_iff.mpr h).symm.trans (lex_eq_ok_iff.mpr h')
  cases this
  rfl

/-- A field parses exactly when it divides into lexemes. It does so in one way only, and its
placeholders are those of the division, with their names, formats and byte positions. -/
theorem parse_ok_iff_divides (text : String) :
    ((∃ f, Field.parse text = .ok f) ↔ ∃ ls, Divides text.toList ls) ∧
      (∀ ls ls', Divides text.toList ls → Divides text.toList ls' → ls = ls') ∧
      ∀ f ls, Field.parse text = .ok f → Divides text.toList ls →
        f.placeholders = ls.filterMap Lexeme.placeholder? := by
  refine ⟨?_, fun ls ls' h h' => h.unique h', ?_⟩
  · constructor
    · rintro ⟨f, hf⟩
      obtain ⟨ls, hls, -⟩ := parse_eq_ok_iff.mp hf
      exact ⟨ls, hls⟩
    · rintro ⟨ls, hls⟩
      exact ⟨_, parse_eq_ok_iff.mpr ⟨ls, hls, rfl⟩⟩
  · intro f ls hf hls
    obtain ⟨ls', hls', rfl⟩ := parse_eq_ok_iff.mp hf
    rw [hls.unique hls']
    exact placeholders_segmentsOf ls'

end Courier.Template
