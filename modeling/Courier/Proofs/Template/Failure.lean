import Courier.Proofs.Template.Composition

/-!
# Where and why a field fails to parse

An error names a brace of the field. Text that is added behind the field can mend a placeholder that
the field ends in and close a brace that is still open; every other error stays what it is, as no
decision on an earlier brace hangs on what comes later than the error. And a brace without its
partner is the first of its kind: the text in front of it parses.
-/

namespace Courier.Template

/-! ## Kinds of errors -/

namespace ParseError

/-- The kind of brace that an error is found at. -/
def brace : ParseError → Char
  | .malformed _ .unmatchedClosing => '}'
  | _ => '{'

/-- A literal brace without its partner. -/
def isUnmatched : ParseError → Bool
  | .malformed _ .unmatchedClosing => true
  | .malformed _ .unmatchedOpening => true
  | _ => false

/-- An error that nothing added behind the field can mend. -/
def isFinal : ParseError → Bool
  | .unterminated _ => false
  | .malformed _ .unmatchedOpening => false
  | _ => true

end ParseError

/-- What follows an opening brace starts with this name: it goes up to the first colon or closing
brace, and it is not one of the names of placeholders. -/
structure Misspelled (name : String) (back : List Char) : Prop where
  ends : ∃ c after, back = name.toList ++ c :: after ∧ (c = ':' ∨ c = '}')
  noColon : ':' ∉ name.toList
  noClosing : '}' ∉ name.toList
  unknown : ∀ n : PlaceholderName, name ≠ n.text

variable {pos : Nat}

/-! ## Braces with more text behind -/

/-- A literal brace stays literal if there is a sign of JSON wherever the first closing brace may
come to stand. -/
theorem readBrace_append_of_none {rest tail : List Char} (h : readBrace pos rest = .ok none)
    (sign : '}' ∉ rest → ∀ more after, tail = more ++ '}' :: after →
      ∃ c ∈ rest ++ more, isStructural c = true) :
    readBrace pos (rest ++ tail) = .ok none := by
  obtain ⟨hno, hall⟩ := readBrace_eq_none_iff.mp h
  refine readBrace_eq_none_iff.mpr ⟨hno.append tail, ?_⟩
  intro body after hsplit hbody
  by_cases closes : '}' ∈ rest
  · obtain ⟨body', after', hrest, hbody'⟩ := List.eq_append_cons_of_mem closes
    have hsame : body' ++ '}' :: (after' ++ tail) = body ++ '}' :: after := by
      rw [← hsplit, hrest, List.append_assoc, List.cons_append]
    rw [← eq_of_split_at_closing hbody' hbody hsame]
    exact hall body' after' hrest hbody'
  · rcases List.append_eq_append_iff.mp hsplit with ⟨more, rfl, htail⟩ | ⟨more, hrest, htail⟩
    · exact sign closes more after htail
    · cases more with
      | nil =>
        rw [List.append_nil] at hrest
        have := sign closes [] after htail.symm
        rwa [List.append_nil, hrest] at this
      | cons c more =>
        cases htail
        exact absurd (by simp [hrest]) closes

/-- A placeholder stays one whatever follows. -/
theorem readBrace_append_of_some {rest after : List Char} {p : Placeholder}
    (h : readBrace pos rest = .ok (some (p, after))) (tail : List Char) :
    readBrace pos (rest ++ tail) = .ok (some (p, after ++ tail)) := by
  rw [readBrace_eq_some_iff] at h ⊢
  obtain ⟨placed, braceless, hprint⟩ := h
  refine ⟨placed, braceless, ?_⟩
  rw [← List.append_assoc, hprint, List.cons_append]

/-! ## Braces that are refused -/

/-- A fault comes from before the change of a result. -/
theorem eq_error_of_map {α β : Type} {x : Except ParseError α} {f : α → β} {e : ParseError}
    (h : x.map f = .error e) : x = .error e := by
  cases x with
  | error e' =>
    cases h
    rfl
  | ok a => cases h

/-- A brace is misspelled when a closing brace comes before any sign of JSON. -/
theorem checkLiteral_eq_error_iff {rest : List Char} {e : ParseError} :
    checkLiteral pos rest = .error e ↔ ∃ body after, rest = body ++ '}' :: after ∧
      (∀ c ∈ body, isBodyChar c = true) ∧ e = refusal pos body := by
  unfold checkLiteral
  constructor
  · intro h
    split at h
    · rename_i after hdrop
      cases h
      refine ⟨rest.takeWhile isBodyChar, after, ?_, List.all_eq_true.mp List.all_takeWhile, rfl⟩
      rw [← hdrop, List.takeWhile_append_dropWhile]
    · cases h
  · rintro ⟨body, after, rfl, hbody, rfl⟩
    rw [List.dropWhile_append_of_pos hbody, List.takeWhile_append_of_pos hbody]
    simp [isBodyChar]

/-- A brace that cannot be literal is not made so by what follows. -/
theorem checkLiteral_append_of_error {rest : List Char} {e : ParseError}
    (h : checkLiteral pos rest = .error e) (tail : List Char) :
    checkLiteral pos (rest ++ tail) = .error e := by
  obtain ⟨body, after, rfl, hbody, rfl⟩ := checkLiteral_eq_error_iff.mp h
  exact checkLiteral_eq_error_iff.mpr ⟨body, after ++ tail, by simp, hbody, rfl⟩

/-- The errors that no text behind can mend stand whatever comes behind. -/
theorem readBrace_append_of_error {rest : List Char} {e : ParseError}
    (h : readBrace pos rest = .error e) (final : e.isFinal = true) (tail : List Char) :
    readBrace pos (rest ++ tail) = .error e := by
  cases braceText rest with
  | nil =>
    cases h
    cases final
  | closing after => exact h
  | noName c after start ne =>
    rw [readBrace_noName start ne] at h
    have hcheck := checkLiteral_append_of_error (eq_error_of_map h) tail
    rw [List.cons_append] at hcheck ⊢
    rw [readBrace_noName start ne, hcheck]
    rfl
  -- What ends too early is not final: more text can close it.
  | nameAtEnd name hname =>
    rw [readBrace_nameAtEnd hname] at h
    cases h
    cases final
  | bare name after hname =>
    rw [readBrace_bare hname] at h
    rw [List.append_assoc, List.cons_append, readBrace_bare hname, eq_error_of_map h]
    rfl
  | formatAtEnd name format hname hf =>
    rw [readBrace_formatAtEnd hname hf] at h
    cases h
    cases final
  | formatted name format after hname hf =>
    rw [readBrace_formatted hname hf] at h
    rw [List.append_assoc, List.cons_append, List.append_assoc, List.cons_append,
      readBrace_formatted hname hf, eq_error_of_map h]
    rfl
  | braceInFormat name format after hname hf =>
    rw [readBrace_braceInFormat hname hf] at h
    rw [List.append_assoc, List.cons_append, List.append_assoc, List.cons_append,
      readBrace_braceInFormat hname hf, h]
  | otherwise name c after hname closing colon =>
    have hname' : IsLongestIdentifier name (c :: (after ++ tail)) :=
      ⟨hname.isIdentifier, hname.ends⟩
    rw [readBrace_otherwise hname closing colon] at h
    have hcheck := checkLiteral_append_of_error (eq_error_of_map h) tail
    rw [List.append_assoc, List.cons_append] at hcheck ⊢
    rw [readBrace_otherwise hname' closing colon, hcheck]
    rfl

/-! ## The brace that an error is found at -/

/-- The error of a text from byte position `pos` on is found at the brace between these parts. -/
structure Found (pos : Nat) (cs : List Char) (e : ParseError) (front back : List Char) : Prop where
  text_eq : cs = front ++ e.brace :: back
  offset_eq : e.offset = pos + Text.byteLength front
  misspelled : ∀ name offset, e = .unknownName name offset → Misspelled name back

/-- An error at the opening brace itself. -/
theorem found_here {rest : List Char} {e : ParseError} (brace : e.brace = '{')
    (offset : e.offset = pos)
    (misspelled : ∀ name offset, e = .unknownName name offset → Misspelled name rest) :
    Found pos ('{' :: rest) e [] rest := by
  constructor
  case text_eq => rw [brace, List.nil_append]
  case offset_eq => rw [offset, Text.byteLength_nil, Nat.add_zero]
  case misspelled => exact misspelled

/-- A name that stands between the brace and a colon or closing brace is misspelled if it is not
known. -/
theorem misspelled_of_named {name : List Char} {format : Option String} {e : ParseError}
    (h : named pos name format = .error e) (hname : IsIdentifier name) {c : Char}
    (hc : c = ':' ∨ c = '}') (after : List Char) :
    e = .unknownName (String.ofList name) pos ∧
      Misspelled (String.ofList name) (name ++ c :: after) := by
  unfold named at h
  split at h
  · cases h
  · rename_i hnone
    cases h
    refine ⟨rfl, ?_⟩
    constructor
    case ends => exact ⟨c, after, by rw [String.toList_ofList], hc⟩
    case noColon =>
      rw [String.toList_ofList]
      exact hname.colon_notMem
    case noClosing =>
      rw [String.toList_ofList]
      exact hname.closing_notMem
    case unknown =>
      intro n heq
      rw [heq, PlaceholderName.ofText?_text] at hnone
      cases hnone

/-- An unknown name is the fault that is found at its brace. -/
theorem found_of_named {name : List Char} {format : Option String} {e : ParseError}
    (h : named pos name format = .error e) (hname : IsIdentifier name) {c : Char}
    (hc : c = ':' ∨ c = '}') (after : List Char) :
    e.isUnmatched = false ∧ Found pos ('{' :: (name ++ c :: after)) e [] (name ++ c :: after) := by
  obtain ⟨rfl, hmisspelled⟩ := misspelled_of_named h hname hc after
  refine ⟨rfl, found_here rfl rfl ?_⟩
  intro name' offset heq
  cases heq
  exact hmisspelled

/-- What is said of a refused brace, whatever its body. -/
theorem refusal_spec (pos : Nat) (body : List Char) :
    (refusal pos body).brace = '{' ∧ (refusal pos body).offset = pos ∧
      (refusal pos body).isUnmatched = false := by
  unfold refusal
  cases body with
  | nil => exact ⟨rfl, rfl, rfl⟩
  | cons c body =>
    dsimp only
    split_ifs
    all_goals exact ⟨rfl, rfl, rfl⟩

/-- A brace is refused for its name only when a name begins behind it. -/
theorem refusal_eq_unknownName {body : List Char} {name : String} {offset : Nat}
    (h : refusal pos body = .unknownName name offset) :
    name = String.ofList (body.takeWhile (· != ':')) ∧
      ∃ c rest, body = c :: rest ∧ isNameStart c = true := by
  unfold refusal at h
  cases body with
  | nil => cases h
  | cons c body =>
    dsimp only at h
    split_ifs at h with start
    cases h
    exact ⟨rfl, c, body, rfl, start⟩

/-- The text up to the first colon or closing brace, if the closing brace comes last. -/
theorem exists_end_of_body (body after : List Char) :
    ∃ c rest, body ++ '}' :: after = body.takeWhile (· != ':') ++ c :: rest ∧
      (c = ':' ∨ c = '}') := by
  have hsplit := (List.takeWhile_append_dropWhile (p := (· != ':')) (l := body)).symm
  have hhead := List.head?_dropWhile_not (· != ':') body
  cases hdrop : body.dropWhile (· != ':') with
  | nil =>
    rw [hdrop, List.append_nil] at hsplit
    exact ⟨'}', after, by rw [← hsplit], Or.inr rfl⟩
  | cons c rest =>
    rw [hdrop] at hsplit hhead
    have hc : c = ':' := by simpa using hhead
    refine ⟨c, rest ++ '}' :: after, ?_, Or.inl hc⟩
    rw [← List.cons_append, ← List.append_assoc, ← hsplit]

/-- A name that goes on with another character than a colon or closing brace is misspelled
together with this character, so that it cannot be known. -/
theorem misspelled_of_refusal {name body after after' : List Char} {c : Char}
    (h : IsLongestIdentifier name (c :: after)) (closing : c ≠ '}') (colon : c ≠ ':')
    (hsplit : name ++ c :: after = body ++ '}' :: after')
    (hbody : ∀ d ∈ body, isBodyChar d = true) :
    Misspelled (String.ofList (body.takeWhile (· != ':'))) (name ++ c :: after) := by
  have hfront : '}' ∉ name ++ [c] := by
    rw [List.mem_append, List.mem_singleton, not_or]
    exact ⟨h.isIdentifier.closing_notMem, closing.symm⟩
  have hstart : (name ++ [c]) ++ after = body ++ '}' :: after' := by
    rw [← hsplit, List.append_assoc, List.singleton_append]
  -- What is before the colon goes beyond the name, at least by the character behind it.
  have htake : ∃ more, body.takeWhile (· != ':') = name ++ c :: more := by
    obtain ⟨more, rfl⟩ := exists_append_of_split hfront hstart
    have hall : ∀ d ∈ name, (d != ':') = true := by
      intro d hd
      have hne : d ≠ ':' := fun heq => h.isIdentifier.colon_notMem (heq ▸ hd)
      simpa using hne
    refine ⟨more.takeWhile (· != ':'), ?_⟩
    rw [List.append_assoc, List.singleton_append, List.takeWhile_append_of_pos hall,
      List.takeWhile_cons_of_pos (by simpa using colon)]
  constructor
  case ends =>
    rw [hsplit, String.toList_ofList]
    exact exists_end_of_body body after'
  case noColon =>
    rw [String.toList_ofList]
    intro hmem
    have := List.all_eq_true.mp List.all_takeWhile ':' hmem
    simp at this
  case noClosing =>
    rw [String.toList_ofList]
    intro hmem
    have := hbody '}' ((List.takeWhile_sublist _).subset hmem)
    contradiction
  case unknown =>
    intro n heq
    obtain ⟨more, hmore⟩ := htake
    have htext : n.text.toList = name ++ c :: more := by
      rw [← heq, String.toList_ofList, hmore]
    have hrest : isNameRest c = true := by
      apply (isIdentifier_text n).isNameRest_of_mem
      rw [htext]
      simp
    rw [h.ends c rfl] at hrest
    cases hrest

/-- A brace that is refused is to blame itself, or the brace in its format is; never is it one that
only lacks its partner. -/
theorem found_of_readBrace {rest : List Char} {e : ParseError}
    (h : readBrace pos rest = .error e) :
    e.isUnmatched = false ∧ ∃ front back, Found pos ('{' :: rest) e front back := by
  cases braceText rest with
  | nil =>
    cases h
    exact ⟨rfl, [], [], found_here rfl rfl (by intro _ _ heq; cases heq)⟩
  | closing tail =>
    cases h
    exact ⟨rfl, [], _, found_here rfl rfl (by intro _ _ heq; cases heq)⟩
  | noName c tail start ne =>
    rw [readBrace_noName start ne] at h
    obtain ⟨body, after, hrest, -, rfl⟩ := checkLiteral_eq_error_iff.mp (eq_error_of_map h)
    obtain ⟨hbrace, hoffset, hmatched⟩ := refusal_spec pos body
    refine ⟨hmatched, [], _, found_here hbrace hoffset ?_⟩
    intro name offset heq
    obtain ⟨-, d, rest, rfl, hstart⟩ := refusal_eq_unknownName heq
    cases hrest
    rw [start] at hstart
    cases hstart
  | nameAtEnd name hname =>
    rw [readBrace_nameAtEnd hname] at h
    cases h
    exact ⟨rfl, [], _, found_here rfl rfl (by intro _ _ heq; cases heq)⟩
  | bare name after hname =>
    rw [readBrace_bare hname] at h
    obtain ⟨hmatched, found⟩ := found_of_named (eq_error_of_map h) hname (Or.inr rfl) after
    exact ⟨hmatched, [], _, found⟩
  | formatAtEnd name format hname hf =>
    rw [readBrace_formatAtEnd hname hf] at h
    cases h
    exact ⟨rfl, [], _, found_here rfl rfl (by intro _ _ heq; cases heq)⟩
  | formatted name format after hname hf =>
    rw [readBrace_formatted hname hf] at h
    obtain ⟨hmatched, found⟩ := found_of_named (eq_error_of_map h) hname (Or.inl rfl) _
    exact ⟨hmatched, [], _, found⟩
  -- This is the only error of a brace other than the one that was read.
  | braceInFormat name format after hname hf =>
    rw [readBrace_braceInFormat hname hf] at h
    cases h
    refine ⟨rfl, '{' :: name ++ ':' :: format, after, ?_⟩
    constructor
    case text_eq => simp [ParseError.brace]
    case offset_eq =>
      have hopening : '{'.utf8Size = 1 := rfl
      have hcolon : ':'.utf8Size = 1 := rfl
      simp only [ParseError.offset, Text.byteLength_append, Text.byteLength_cons, List.cons_append,
        hopening, hcolon]
      omega
    case misspelled =>
      intro _ _ heq
      cases heq
  | otherwise name c after hname closing colon =>
    rw [readBrace_otherwise hname closing colon] at h
    obtain ⟨body, after', hrest, hbody, rfl⟩ := checkLiteral_eq_error_iff.mp (eq_error_of_map h)
    obtain ⟨hbrace, hoffset, hmatched⟩ := refusal_spec pos body
    refine ⟨hmatched, [], _, found_here hbrace hoffset ?_⟩
    intro name' offset heq
    rw [(refusal_eq_unknownName heq).1]
    exact misspelled_of_refusal hname closing colon hrest hbody

/-! ## Errors further on -/

/-- An error is found inside `depth` literal braces, and everything in front of a brace without its
partner is in order. -/
structure FoundIn (pos depth : Nat) (cs : List Char) (e : ParseError) (front back : List Char) :
    Prop extends Found pos cs e front back where
  row : e.isUnmatched = true → ∃ ls, printLexemes ls = front ∧ Row pos depth ls

/-- A brace without its partner, with nothing open in front of it. -/
theorem foundIn_here {what : Malformation} {c : Char} {rest : List Char}
    (brace : (ParseError.malformed pos what).brace = c) :
    FoundIn pos 0 (c :: rest) (.malformed pos what) [] rest := by
  constructor
  case row =>
    intro _
    exact ⟨[], rfl, .nil⟩
  constructor
  case text_eq => rw [brace, List.nil_append]
  case offset_eq => rfl
  case misspelled =>
    intro _ _ heq
    cases heq

/-- What is found behind a lexeme is found behind it in the whole text. -/
theorem FoundIn.cons {depth depth' : Nat} {cs front back : List Char} {e : ParseError} {l : Lexeme}
    (h : FoundIn (pos + Text.byteLength l.print) depth' cs e front back)
    (row : ∀ ls, printLexemes ls = front → Row (pos + Text.byteLength l.print) depth' ls →
      Row pos depth (l :: ls)) :
    FoundIn pos depth (l.print ++ cs) e (l.print ++ front) back := by
  constructor
  case row =>
    intro unmatched
    obtain ⟨ls, rfl, hrow⟩ := h.row unmatched
    exact ⟨l :: ls, rfl, row ls rfl hrow⟩
  constructor
  case text_eq => rw [h.text_eq, List.append_assoc]
  case offset_eq => rw [h.offset_eq, Text.byteLength_append, Nat.add_assoc]
  case misspelled => exact h.misspelled

/-- The error of a text is found in the text, unless it is that of a brace which was open before. -/
theorem found_of_lexFrom {opened : List Nat} {before : List Lexeme} {cs : List Char}
    {e : ParseError} (h : lexFrom pos opened before cs = .error e) :
    (∃ front back, FoundIn pos opened.length cs e front back) ∨
      ∃ start, opened.getLast? = some start ∧ e = .malformed start .unmatchedOpening := by
  fun_induction lexFrom pos opened before cs with
  | case1 pos opened before start hlast =>
    cases h
    exact Or.inr ⟨start, hlast, rfl⟩
  | case2 pos opened before hlast => cases h
  | case3 pos opened before rest e' hbrace =>
    cases h
    obtain ⟨hmatched, front, back, found⟩ := found_of_readBrace hbrace
    refine Or.inl ⟨front, back, found, ?_⟩
    intro unmatched
    rw [hmatched] at unmatched
    cases unmatched
  | case4 pos opened before rest hbrace ih =>
    rcases ih h with ⟨front, back, found⟩ | ⟨start, hlast, rfl⟩
    · left
      refine ⟨'{' :: front, back, FoundIn.cons (l := .opening) found ?_⟩
      intro ls hprint row
      have closes : '}' ∈ front := hprint ▸ closing_mem_of_row row
      rw [found.text_eq] at hbrace
      have literal := opensLiteral_of_readBrace hbrace (List.mem_append_left _ closes)
      exact .opening (hprint ▸ literal.of_append closes) row
    · cases opened with
      | nil =>
        -- The brace itself is the outermost one that stays open.
        cases hlast
        exact Or.inl ⟨[], rest, foundIn_here rfl⟩
      | cons first outer =>
        right
        exact ⟨start, by rwa [List.getLast?_cons_cons] at hlast, rfl⟩
  | case5 pos opened before rest p after hbrace _ ih =>
    obtain ⟨placed, braceless, hprint⟩ := readBrace_eq_some_iff.mp hbrace
    have hstop := Placeholder.stop_eq placed
    rcases ih h with ⟨front, back, found⟩ | left
    · rw [hstop] at found
      rw [← hprint]
      refine Or.inl ⟨p.print ++ front, back, FoundIn.cons (l := .placeholder p) found ?_⟩
      intro ls _ row
      exact .placeholder placed braceless (hstop ▸ row)
    · exact Or.inr left
  | case6 pos before rest =>
    cases h
    exact Or.inl ⟨[], rest, foundIn_here rfl⟩
  | case7 pos before rest first outer ih =>
    rcases ih h with ⟨front, back, found⟩ | ⟨start, hlast, rfl⟩
    · left
      refine ⟨'}' :: front, back, FoundIn.cons (l := .closing) found ?_⟩
      intro ls _ row
      exact .closing row
    · right
      refine ⟨start, ?_, rfl⟩
      rw [List.getLast?_cons, hlast, Option.getD_some]
  | case8 pos opened before c rest hopen hclose ih =>
    have noBrace : isBrace c = false := by simpa [isBrace] using ⟨hopen, hclose⟩
    rcases ih h with ⟨front, back, found⟩ | left
    · left
      refine ⟨c :: front, back, FoundIn.cons (l := .plain c) found ?_⟩
      intro ls _ row
      exact .plain noBrace row
    · exact Or.inr left

/-! ## What comes behind a text that fails -/

/-- The errors that no text behind can mend stand whatever comes behind: the brace in error shows
every literal brace in front of it to be one, if no closing brace does. -/
theorem lexFrom_append_of_error {opened : List Nat} {before : List Lexeme} {cs : List Char}
    {e : ParseError} (h : lexFrom pos opened before cs = .error e) (final : e.isFinal = true)
    (tail : List Char) : lexFrom pos opened before (cs ++ tail) = .error e := by
  fun_induction lexFrom pos opened before cs with
  | case1 pos opened before start hlast =>
    cases h
    cases final
  | case2 pos opened before hlast => cases h
  | case3 pos opened before rest e' hbrace =>
    cases h
    rw [List.cons_append, lexFrom_brace, readBrace_append_of_error hbrace final tail]
  | case4 pos opened before rest hbrace ih =>
    -- A closing brace behind would make it an error if there were no sign of JSON in between, but
    -- the brace in error is one.
    have literal : readBrace pos (rest ++ tail) = .ok none := by
      apply readBrace_append_of_none hbrace
      intro closes more after _
      rcases found_of_lexFrom h with ⟨front, back, found⟩ | ⟨start, -, rfl⟩
      · have hmem : e.brace ∈ rest := by
          rw [found.text_eq]
          simp
        have hbrace : e.brace = '{' := by
          unfold ParseError.brace at hmem ⊢
          split at hmem
          · exact absurd hmem closes
          · rfl
        exact ⟨'{', List.mem_append_left _ (hbrace ▸ hmem), rfl⟩
      · cases final
    rw [List.cons_append, lexFrom_brace, literal]
    exact ih h
  | case5 pos opened before rest p after hbrace _ ih =>
    rw [List.cons_append, lexFrom_brace, readBrace_append_of_some hbrace tail]
    exact ih h
  | case6 pos before rest =>
    rw [List.cons_append, lexFrom]
    exact h
  | case7 pos before rest first outer ih =>
    rw [List.cons_append, lexFrom]
    exact ih h
  | case8 pos opened before c rest hopen hclose ih =>
    rw [List.cons_append, lexFrom_plain hopen hclose]
    exact ih h

/-- As many closing braces as are open make a row. -/
theorem row_replicate_closing (depth : Nat) : ∀ pos, Row pos depth (.replicate depth .closing) := by
  induction depth with
  | zero => exact fun _ => .nil
  | succ depth ih => exact fun pos => .closing (ih (pos + 1))

theorem printLexemes_replicate_closing (depth : Nat) :
    printLexemes (.replicate depth .closing) = .replicate depth '}' := by
  induction depth with
  | zero => rfl
  | succ depth ih => rw [List.replicate_succ, printLexemes_cons, ih, List.replicate_succ]; rfl

/-- Open braces can be closed: a quotation mark shows them to be literal, and closing braces in
sufficient number follow it. -/
theorem exists_lexFrom_append {opened : List Nat} {before : List Lexeme} {cs : List Char}
    {start : Nat} (h : lexFrom pos opened before cs = .error (.malformed start .unmatchedOpening)) :
    ∃ n out, lexFrom pos opened before (cs ++ '"' :: .replicate n '}') = .ok out := by
  fun_induction lexFrom pos opened before cs with
  | case1 pos opened before start' hlast =>
    -- Here the text ends: all that is open is to be closed.
    have row : Row pos opened.length (.plain '"' :: .replicate opened.length .closing) :=
      .plain rfl (row_replicate_closing _ _)
    have hread := lexFrom_of_row row opened before rfl
    rw [printLexemes_cons, printLexemes_replicate_closing] at hread
    exact ⟨opened.length, _, hread⟩
  | case2 pos opened before hlast => cases h
  | case3 pos opened before rest e hbrace =>
    cases h
    cases (found_of_readBrace hbrace).1
  | case4 pos opened before rest hbrace ih =>
    obtain ⟨n, out, hout⟩ := ih h
    -- The quotation mark is the first sign of JSON behind this brace if there is none before it.
    have literal : readBrace pos (rest ++ '"' :: .replicate n '}') = .ok none := by
      apply readBrace_append_of_none hbrace
      intro _ more after htail
      cases more with
      | nil => cases htail
      | cons c more =>
        obtain ⟨rfl, -⟩ := List.cons.inj htail
        exact ⟨'"', by simp, rfl⟩
    refine ⟨n, out, ?_⟩
    rw [List.cons_append, lexFrom_brace, literal]
    exact hout
  | case5 pos opened before rest p after hbrace _ ih =>
    obtain ⟨n, out, hout⟩ := ih h
    refine ⟨n, out, ?_⟩
    rw [List.cons_append, lexFrom_brace, readBrace_append_of_some hbrace]
    exact hout
  | case6 pos before rest => cases h
  | case7 pos before rest first outer ih =>
    obtain ⟨n, out, hout⟩ := ih h
    refine ⟨n, out, ?_⟩
    rw [List.cons_append, lexFrom]
    exact hout
  | case8 pos opened before c rest hopen hclose ih =>
    obtain ⟨n, out, hout⟩ := ih h
    refine ⟨n, out, ?_⟩
    rw [List.cons_append, lexFrom_plain hopen hclose]
    exact hout

/-! ## Fields -/

/-- Fields are refused for what is wrong with their lexemes. -/
theorem parse_eq_error_iff {text : String} {e : ParseError} :
    Field.parse text = .error e ↔ lex text.toList = .error e := by
  unfold Field.parse
  constructor
  · exact eq_error_of_map
  · intro h
    rw [h]
    rfl

/-- A front part that divides into lexemes ends in front of the brace in error. -/
theorem Divides.byteLength_le {front back : List Char} {ls : List Lexeme} {e : ParseError}
    (h : Divides front ls) (failed : lex (front ++ back) = .error e) :
    Text.byteLength front ≤ e.offset := by
  rw [h.lex_append] at failed
  cases hlex : lex back with
  | ok ls' =>
    rw [hlex] at failed
    cases failed
  | error e' =>
    rw [hlex, moved] at failed
    cases failed
    cases e' <;> exact Nat.le_add_right _ _

/-- The error of a field that does not parse is found at the brace between these parts of it. -/
structure Localised (text : String) (e : ParseError) (front back : String) : Prop where
  text_eq : text = front ++ String.singleton e.brace ++ back
  offset_eq : e.offset = front.utf8ByteSize
  misspelled : ∀ name offset, e = .unknownName name offset → Misspelled name back.toList
  /-- In front of a brace without its partner the field parses. -/
  accepted : e.isUnmatched = true → ∃ f, Field.parse front = .ok f
  /-- No front part of the field that parses reaches beyond the brace. -/
  size_le : ∀ front' back' f, text = front' ++ back' → Field.parse front' = .ok f →
    front'.utf8ByteSize ≤ e.offset
  /-- Nothing that is added behind the field changes the error. -/
  final : e.isFinal = true → ∀ more, Field.parse (text ++ more) = .error e
  /-- Something that is added behind the field closes a brace that is open. -/
  completable : ∀ start, e = .malformed start .unmatchedOpening →
    ∃ more f, Field.parse (text ++ more) = .ok f

/-- The error of a field is found at a brace of the field, and what is added behind the field can
mend it only if the field ends inside a placeholder or a literal brace. -/
theorem exists_localised_of_parse {text : String} {e : ParseError}
    (h : Field.parse text = .error e) : ∃ front back, Localised text e front back := by
  have hlex := parse_eq_error_iff.mp h
  obtain ⟨front, back, found⟩ : ∃ front back, FoundIn 0 0 text.toList e front back := by
    -- No brace is open from before, so that the one in error is in the text itself.
    rcases found_of_lexFrom hlex with found | ⟨start, hlast, -⟩
    · exact found
    · cases hlast
  refine ⟨String.ofList front, String.ofList back, ?_⟩
  constructor
  case text_eq =>
    apply String.toList_injective
    simp [found.text_eq]
  case offset_eq => rw [found.offset_eq, Nat.zero_add, utf8ByteSize_ofList]
  case misspelled =>
    rw [String.toList_ofList]
    exact found.misspelled
  case accepted =>
    intro unmatched
    obtain ⟨ls, rfl, row⟩ := found.row unmatched
    refine ⟨_, parse_eq_ok_iff.mpr ⟨ls, divides_iff_row.mpr ⟨?_, row⟩, rfl⟩⟩
    rw [String.toList_ofList]
  case size_le =>
    rintro front' back' f rfl parsed
    obtain ⟨ls, hls, -⟩ := parse_eq_ok_iff.mp parsed
    rw [String.toList_append] at hlex
    rw [utf8ByteSize_eq]
    exact hls.byteLength_le hlex
  case final =>
    intro final more
    rw [parse_eq_error_iff, String.toList_append]
    exact lexFrom_append_of_error hlex final more.toList
  case completable =>
    rintro start rfl
    obtain ⟨n, out, hout⟩ := exists_lexFrom_append hlex
    refine ⟨String.ofList ('"' :: .replicate n '}'), _, parse_eq_ok_iff.mpr ⟨out, ?_, rfl⟩⟩
    rw [String.toList_append, String.toList_ofList]
    exact lex_eq_ok_iff.mp hout

/-- Of two braces that stay open behind a letter of two bytes and a pair of braces, the outer one;
and a misspelled name inside a literal brace. -/
theorem exists_localised_of_unclosed :
    (Field.parse "é\x7b\"a\":1\x7d\x7b\"b\":\x7b\"c\"" =
        .error (.malformed 9 .unmatchedOpening) ∧
      ∃ front back, Localised "é\x7b\"a\":1\x7d\x7b\"b\":\x7b\"c\""
        (.malformed 9 .unmatchedOpening) front back) ∧
    (Field.parse "\x7b\"n\":\x7bcuont:3d\x7d\x7d" = .error (.unknownName "cuont" 5) ∧
      ∃ front back, Localised "\x7b\"n\":\x7bcuont:3d\x7d\x7d" (.unknownName "cuont" 5)
        front back) := by
  have unclosed : Field.parse "é\x7b\"a\":1\x7d\x7b\"b\":\x7b\"c\"" =
      .error (.malformed 9 .unmatchedOpening) := by
    decide +kernel
  have misspelled : Field.parse "\x7b\"n\":\x7bcuont:3d\x7d\x7d" =
      .error (.unknownName "cuont" 5) := by
    decide +kernel
  exact ⟨⟨unclosed, exists_localised_of_parse unclosed⟩, misspelled,
    exists_localised_of_parse misspelled⟩

end Courier.Template
