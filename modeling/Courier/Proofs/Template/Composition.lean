import Courier.Proofs.Template.Lossless
import Courier.Template.Joined

/-!
# Parsing one text after another

A text that parses neither looks at what follows it nor leaves a brace open for it. So what follows
is read as it would be alone, only further on: its placeholders and its error move by the bytes of
the text in front.
-/

namespace Courier.Template

/-! ## Reading further on -/

/-- The lexeme this many bytes further on. -/
def Lexeme.shift (n : Nat) : Lexeme → Lexeme
  | .placeholder p => .placeholder (p.shift n)
  | l => l

/-- An answer about a text further on; `move` says what becomes of what was found. -/
def moved {α β : Type} (n : Nat) (move : α → β) : Except ParseError α → Except ParseError β
  | .ok a => .ok (move a)
  | .error e => .error (e.shift n)

/-- What is done after moving can be done while moving. -/
theorem map_moved {α β γ : Type} (n : Nat) (move : α → β) (f : β → γ) (x : Except ParseError α) :
    (moved n move x).map f = moved n (f ∘ move) x := by
  cases x <;> rfl

/-- What is done before moving can be done while moving. -/
theorem moved_map {α β γ : Type} (n : Nat) (move : β → γ) (f : α → β) (x : Except ParseError α) :
    moved n move (x.map f) = moved n (move ∘ f) x := by
  cases x <;> rfl

variable (n : Nat) {pos : Nat}

/-- A placeholder moves with its brace. -/
theorem shift_at (name : PlaceholderName) (format : Option String) :
    Placeholder.at (n + pos) name format = (Placeholder.at pos name format).shift n := by
  simp [Placeholder.at, Placeholder.shift, Nat.add_assoc]

/-- A refusal moves with its brace. -/
theorem shift_refusal (body : List Char) :
    refusal (n + pos) body = (refusal pos body).shift n := by
  cases body with
  | nil => rfl
  | cons c body =>
    simp only [refusal]
    split_ifs <;> rfl

/-- Whether a brace is literal does not depend on where it is. -/
theorem checkLiteral_shift (rest : List Char) :
    checkLiteral (n + pos) rest = moved n id (checkLiteral pos rest) := by
  unfold checkLiteral
  split
  · rw [shift_refusal]
    rfl
  · rfl

/-- Whether a name is known does not depend on where it is. -/
theorem named_shift (name : List Char) (format : Option String) :
    named (n + pos) name format = moved n (Placeholder.shift n) (named pos name format) := by
  unfold named
  split
  · rw [shift_at]
    rfl
  · rfl

/-- What is read at a brace, further on. -/
theorem readBrace_shift (rest : List Char) :
    readBrace (n + pos) rest =
      moved n (Option.map fun found => (found.1.shift n, found.2)) (readBrace pos rest) := by
  cases braceText rest with
  | nil => rfl
  | closing tail => rfl
  | noName c tail start ne =>
    rw [readBrace_noName start ne, readBrace_noName start ne, checkLiteral_shift, map_moved,
      moved_map]
    rfl
  | nameAtEnd name hname =>
    rw [readBrace_nameAtEnd hname, readBrace_nameAtEnd hname]
    rfl
  | bare name after hname =>
    rw [readBrace_bare hname, readBrace_bare hname, named_shift, map_moved, moved_map]
    rfl
  | formatAtEnd name format hname hf =>
    rw [readBrace_formatAtEnd hname hf, readBrace_formatAtEnd hname hf]
    rfl
  | formatted name format after hname hf =>
    rw [readBrace_formatted hname hf, readBrace_formatted hname hf, named_shift, map_moved,
      moved_map]
    rfl
  | braceInFormat name format after hname hf =>
    -- The brace within the format moves along with the brace that was read.
    have hoffset : n + pos + 2 + Text.byteLength name + Text.byteLength format =
        n + (pos + 2 + Text.byteLength name + Text.byteLength format) := by
      omega
    rw [readBrace_braceInFormat hname hf, readBrace_braceInFormat hname hf, hoffset]
    rfl
  | otherwise name c after hname closing colon =>
    rw [readBrace_otherwise hname closing colon, readBrace_otherwise hname closing colon,
      checkLiteral_shift, map_moved, moved_map]
    rfl

/-- A text further on is read as it would be alone, whatever was read in front of it. -/
theorem lexFrom_shift (front : List Lexeme) (pos : Nat) (opened : List Nat) (before : List Lexeme)
    (cs : List Char) :
    lexFrom (n + pos) (opened.map (n + ·)) (before.map (Lexeme.shift n) ++ front) cs =
      moved n (fun ls => front.reverse ++ ls.map (Lexeme.shift n))
        (lexFrom pos opened before cs) := by
  fun_induction lexFrom pos opened before cs with
  | case1 pos opened before start hlast =>
    rw [lexFrom, List.getLast?_map, hlast]
    rfl
  | case2 pos opened before hlast =>
    rw [lexFrom, List.getLast?_map, hlast]
    simp [moved]
  | case3 pos opened before rest e hbrace =>
    rw [lexFrom_brace, readBrace_shift, hbrace]
    rfl
  | case4 pos opened before rest hbrace ih =>
    rw [lexFrom_brace, readBrace_shift, hbrace]
    exact ih
  | case5 pos opened before rest p after hbrace _ ih =>
    rw [lexFrom_brace, readBrace_shift, hbrace]
    exact ih
  | case6 pos before rest =>
    rw [List.map_nil, lexFrom]
    rfl
  | case7 pos before rest _ outer ih =>
    rw [List.map_cons, lexFrom]
    exact ih
  | case8 pos opened before c rest hopen hclose ih =>
    rw [lexFrom_plain hopen hclose, Nat.add_assoc]
    exact ih

/-! ## Joining segments -/

@[simp] theorem joinSegments_nil (back : List Segment) : joinSegments [] back = back := rfl

theorem joinSegments_placeholder (p : Placeholder) (front back : List Segment) :
    joinSegments (.placeholder p :: front) back = .placeholder p :: joinSegments front back := by
  rw [joinSegments]
  simp

theorem joinSegments_cons {s : Segment} {front : List Segment} (h : front ≠ [])
    (back : List Segment) : joinSegments (s :: front) back = s :: joinSegments front back := by
  rw [joinSegments]
  simp [h]

/-- A literal stays as it is in front of a placeholder. -/
theorem joinSegments_literal_of_head {text : String} {back : List Segment}
    (h : ∀ s ∈ back.head?, s.placeholder? ≠ none) :
    joinSegments [.literal text] back = .literal text :: back := by
  cases back with
  | nil => rfl
  | cons s back =>
    cases s with
    | literal t => exact absurd rfl (h _ rfl)
    | placeholder p => rfl

@[simp] theorem close_nil (segments : List Segment) : prepend.close ([], segments) = segments := rfl

@[simp] theorem close_cons (c : Char) (cs : List Char) (segments : List Segment) :
    prepend.close (c :: cs, segments) = .literal (String.ofList (c :: cs)) :: segments := rfl

/-- What the text and the segments of a front part become when it goes on into `acc`: without a
placeholder its text goes on, and with one its segments do. -/
inductive GoesOn (acc : List Char × List Segment) :
    List Char × List Segment → List Char × List Segment → Prop where
  | text (cs : List Char) : GoesOn acc (cs, []) (cs ++ acc.1, acc.2)
  | segments (cs : List Char) (s : Segment) (front : List Segment) :
    GoesOn acc (cs, s :: front) (cs, joinSegments (s :: front) (prepend.close acc))

/-- Where the back begins with a placeholder, closing the whole joins what is closed. -/
theorem GoesOn.close {acc front whole : List Char × List Segment} (h : GoesOn acc front whole)
    (first : ∀ s ∈ acc.2.head?, s.placeholder? ≠ none) :
    prepend.close whole = joinSegments (prepend.close front) (prepend.close acc) := by
  obtain ⟨text, back⟩ := acc
  cases h with
  | text cs =>
    cases cs with
    | nil => rfl
    | cons c cs =>
      -- Whether the two texts become one hangs on whether there is a second.
      cases text with
      | nil =>
        dsimp only
        rw [List.append_nil]
        exact (joinSegments_literal_of_head first).symm
      | cons d text =>
        dsimp only
        rw [List.cons_append, close_cons, close_cons, close_cons, joinSegments, ← List.cons_append,
          String.ofList_append]
  | segments cs s front =>
    cases cs with
    | nil => rfl
    | cons c cs => rw [close_cons, close_cons, joinSegments_cons (List.cons_ne_nil s front)]

/-- Lexemes in front of a placeholder are gathered as if nothing followed. -/
theorem goesOn_foldr (ls : List Lexeme) {acc : List Char × List Segment}
    (first : ∀ s ∈ acc.2.head?, s.placeholder? ≠ none) :
    GoesOn acc (ls.foldr prepend ([], [])) (ls.foldr prepend acc) := by
  induction ls with
  | nil => exact .text []
  | cons l ls ih =>
    rw [List.foldr_cons, List.foldr_cons]
    cases h : l.placeholder? with
    | some p =>
      rw [eq_placeholder_of_placeholder? h, prepend, prepend, ih.close first,
        ← joinSegments_placeholder]
      exact .segments [] _ _
    | none =>
      rw [prepend_of_placeholder?_eq_none h, prepend_of_placeholder?_eq_none h]
      generalize ls.foldr prepend ([], []) = front at ih ⊢
      generalize ls.foldr prepend acc = whole at ih ⊢
      cases ih with
      | text cs =>
        dsimp only
        rw [← List.append_assoc]
        exact .text (l.print ++ cs)
      | segments cs s front => exact .segments (l.print ++ cs) s front

/-- Segments of lexemes in a row are joined. -/
theorem segmentsOf_append (ls ls' : List Lexeme) :
    segmentsOf (ls ++ ls') = joinSegments (segmentsOf ls) (segmentsOf ls') := by
  have first := (tight_foldr ls').2
  rw [segmentsOf, List.foldr_append]
  exact (goesOn_foldr ls first).close first

/-! ## Segments further on -/

theorem close_shift (n : Nat) (cs : List Char) (segments : List Segment) :
    prepend.close (cs, segments.map (Segment.shift n)) =
      (prepend.close (cs, segments)).map (Segment.shift n) := by
  cases cs <;> rfl

theorem foldr_prepend_shift (n : Nat) (ls : List Lexeme) :
    (ls.map (Lexeme.shift n)).foldr prepend ([], []) =
      ((ls.foldr prepend ([], [])).1, (ls.foldr prepend ([], [])).2.map (Segment.shift n)) := by
  induction ls with
  | nil => rfl
  | cons l ls ih =>
    rw [List.map_cons, List.foldr_cons, List.foldr_cons, ih]
    cases l with
    | placeholder p =>
      rw [Lexeme.shift, prepend, prepend, close_shift]
      rfl
    | plain c => rfl
    | opening => rfl
    | closing => rfl

/-- Segments of lexemes further on are the segments further on. -/
theorem segmentsOf_shift (n : Nat) (ls : List Lexeme) :
    segmentsOf (ls.map (Lexeme.shift n)) = (segmentsOf ls).map (Segment.shift n) := by
  rw [segmentsOf, foldr_prepend_shift, close_shift]
  rfl

/-! ## Fields -/

theorem utf8ByteSize_eq (text : String) : text.utf8ByteSize = Text.byteLength text.toList := by
  rw [← utf8ByteSize_ofList, String.ofList_toList]

/-- What follows a text that divides into lexemes is read as it would be alone, further on. -/
theorem Divides.lex_append {cs : List Char} {ls : List Lexeme} (h : Divides cs ls)
    (tail : List Char) :
    lex (cs ++ tail) = moved (Text.byteLength cs)
      (fun ls' => ls ++ ls'.map (Lexeme.shift (Text.byteLength cs))) (lex tail) := by
  obtain ⟨hprint, row⟩ := divides_iff_row.mp h
  have hread := lexFrom_row_append row tail [] [] rfl
  have hshift := lexFrom_shift (Text.byteLength cs) ls.reverse 0 [] [] tail
  rw [hprint, Nat.zero_add, List.append_nil] at hread
  rw [List.reverse_reverse] at hshift
  exact hread.trans hshift

/-- A text behind one that parses is parsed as it would be alone: its segments follow those of the
text in front, and its placeholders or its error move by the bytes of that text. -/
theorem parse_append_of_parse {f g : String} {p : Field} (h : Field.parse f = .ok p) :
    (∀ q, Field.parse g = .ok q → Field.parse (f ++ g) = .ok (p.append q)) ∧
      ∀ e, Field.parse g = .error e → Field.parse (f ++ g) = .error (e.shift f.utf8ByteSize) := by
  obtain ⟨ls, hls, rfl⟩ := parse_eq_ok_iff.mp h
  have hlex := hls.lex_append g.toList
  rw [← String.toList_append, ← utf8ByteSize_eq] at hlex
  constructor
  · intro q hq
    obtain ⟨ls', hls', rfl⟩ := parse_eq_ok_iff.mp hq
    rw [lex_eq_ok_iff.mpr hls', moved] at hlex
    rw [Field.parse, hlex, Except.map, segmentsOf_append, segmentsOf_shift]
    rfl
  · intro e he
    cases hg : lex g.toList with
    | ok ls' =>
      rw [Field.parse, hg] at he
      cases he
    | error e' =>
      rw [Field.parse, hg] at he
      cases he
      rw [hg, moved] at hlex
      rw [Field.parse, hlex]
      rfl

/-- Behind a text of fifteen bytes that ends in a literal: a text that begins with one, and a text
that does not parse. -/
theorem parse_append_at_seam :
    ∃ p q, Field.parse "é\x7b\"a\":\x7buuid\x7d\x7dx" = .ok p ∧
      Field.parse "y\x7bcount:3d\x7d" = .ok q ∧
      Field.parse ("é\x7b\"a\":\x7buuid\x7d\x7dx" ++ "y\x7bcount:3d\x7d") = .ok (p.append q) ∧
      (p.append q).segments = [.literal "é\x7b\"a\":", .placeholder ⟨.uuid, none, 7, 13⟩,
        .literal "\x7dxy", .placeholder ⟨.count, some "3d", 16, 26⟩] ∧
      Field.parse ("é\x7b\"a\":\x7buuid\x7d\x7dx" ++ "ü\x7bnope\x7d") =
        .error (.unknownName "nope" 17) := by
  have front : Field.parse "é\x7b\"a\":\x7buuid\x7d\x7dx" =
      .ok ⟨"é\x7b\"a\":\x7buuid\x7d\x7dx", [.literal "é\x7b\"a\":",
        .placeholder ⟨.uuid, none, 7, 13⟩, .literal "\x7dx"]⟩ := by
    decide +kernel
  have back : Field.parse "y\x7bcount:3d\x7d" =
      .ok ⟨"y\x7bcount:3d\x7d", [.literal "y", .placeholder ⟨.count, some "3d", 1, 11⟩]⟩ := by
    decide +kernel
  have misspelled : Field.parse "ü\x7bnope\x7d" = .error (.unknownName "nope" 2) := by
    decide +kernel
  exact ⟨_, _, front, back, (parse_append_of_parse front).1 _ back, by decide +kernel,
    (parse_append_of_parse front).2 _ misspelled⟩

end Courier.Template
