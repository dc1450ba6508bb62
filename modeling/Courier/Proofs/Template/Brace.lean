import Courier.Template.Grammar
import Mathlib.Data.List.TakeWhile
import Mathlib.Tactic.ByContra
import Mathlib.Tactic.Push

/-!
# Reading one brace

What `readBrace` answers, in terms of the text after the brace: it finds a placeholder exactly where
one is written out, and takes a brace for literal exactly where no placeholder can begin and the
text up to the next closing brace, if there is one, holds a sign of JSON.
-/

namespace Courier.Template

/-! ## Identifiers -/

theorem isNameStart_closing : isNameStart '}' = false := by decide

/-- The longest identifier is read wherever it is. -/
theorem identifier_append {name tail : List Char} (h : IsLongestIdentifier name tail) :
    identifier (name ++ tail) = name := by
  obtain ⟨⟨c, rest, rfl, start, all⟩, ends⟩ := h
  rw [List.cons_append, identifier, if_pos start, List.takeWhile_append_of_pos all]
  cases tail with
  | nil => simp
  | cons d tail =>
    have hd : isNameRest d = false := ends d rfl
    rw [List.takeWhile_cons_of_neg (by simp [hd]), List.append_nil]

/-- What is read as an identifier is the longest one at the front. -/
theorem isLongestIdentifier_identifier {cs : List Char} (h : identifier cs ≠ []) :
    ∃ tail, cs = identifier cs ++ tail ∧ IsLongestIdentifier (identifier cs) tail := by
  cases cs with
  | nil => exact absurd rfl h
  | cons c rest =>
    by_cases start : isNameStart c = true
    · have hi : identifier (c :: rest) = c :: rest.takeWhile isNameRest := by
        rw [identifier, if_pos start]
      refine ⟨rest.dropWhile isNameRest, ?_, ?_, ?_⟩
      · rw [hi, List.cons_append, List.takeWhile_append_dropWhile]
      · refine ⟨c, rest.takeWhile isNameRest, hi, start, ?_⟩
        intro d hd
        exact List.all_eq_true.mp List.all_takeWhile d hd
      · intro d hd
        have := List.head?_dropWhile_not isNameRest rest
        rw [Option.mem_def] at hd
        rw [hd] at this
        simpa using this
    · exact absurd (by rw [identifier, if_neg start]) h

theorem IsIdentifier.isNameRest_of_mem {name : List Char} (h : IsIdentifier name) {c : Char}
    (hc : c ∈ name) : isNameRest c = true := by
  obtain ⟨d, rest, rfl, start, all⟩ := h
  rcases List.mem_cons.mp hc with rfl | hrest
  · simp only [isNameStart, isNameRest, Char.isAlphanum, Bool.or_eq_true] at start ⊢
    exact start.imp_left Or.inl
  · exact all c hrest

theorem IsIdentifier.closing_notMem {name : List Char} (h : IsIdentifier name) : '}' ∉ name := by
  intro hmem
  exact absurd (h.isNameRest_of_mem hmem) (by decide)

theorem IsIdentifier.colon_notMem {name : List Char} (h : IsIdentifier name) : ':' ∉ name := by
  intro hmem
  exact absurd (h.isNameRest_of_mem hmem) (by decide)

/-- The front part of an identifier is one. -/
theorem IsIdentifier.of_append {front back : List Char} (h : IsIdentifier (front ++ back))
    (hne : front ≠ []) : IsIdentifier front := by
  obtain ⟨c, rest, heq, start, all⟩ := h
  cases front with
  | nil => exact absurd rfl hne
  | cons d front =>
    rw [List.cons_append, List.cons.injEq] at heq
    obtain ⟨rfl, rfl⟩ := heq
    exact ⟨d, front, rfl, start, fun e he => all e (List.mem_append_left _ he)⟩

/-- The names of placeholders are identifiers. -/
theorem isIdentifier_text (n : PlaceholderName) : IsIdentifier n.text.toList := by
  cases n with
  | uuid => exact ⟨'u', "uid".toList, rfl, rfl, List.all_eq_true.mp rfl⟩
  | count => exact ⟨'c', "ount".toList, rfl, rfl, List.all_eq_true.mp rfl⟩
  | timestamp => exact ⟨'t', "imestamp".toList, rfl, rfl, List.all_eq_true.mp rfl⟩

/-! ## Braces that are not placeholders -/

/-- A brace is refused as a misspelled placeholder exactly when a closing brace comes before the
first sign of JSON. -/
theorem checkLiteral_eq_ok_iff {pos : Nat} {rest : List Char} :
    checkLiteral pos rest = .ok () ↔
      ∀ body after, rest = body ++ '}' :: after → '}' ∉ body →
        ∃ c ∈ body, isStructural c = true := by
  have hsplit := (List.takeWhile_append_dropWhile (p := isBodyChar) (l := rest)).symm
  have hall : ∀ c ∈ rest.takeWhile isBodyChar, isBodyChar c = true :=
    List.all_eq_true.mp List.all_takeWhile
  unfold checkLiteral
  constructor
  · intro h body after hrest hbody
    by_contra hno
    push Not at hno
    -- Without such a sign the body is all that is skipped, so the closing brace ends it.
    have hchars : ∀ c ∈ body, isBodyChar c = true := by
      intro c hc
      have hne : c ≠ '}' := fun he => hbody (he ▸ hc)
      simp [isBodyChar, hne, hno c hc]
    have hstop : isBodyChar '}' = false := by decide
    have hdrop : rest.dropWhile isBodyChar = '}' :: after := by
      rw [hrest, List.dropWhile_append_of_pos hchars, List.dropWhile_cons_of_neg (by simp [hstop])]
    rw [hdrop] at h
    cases h
  · intro h
    split
    · rename_i after hdrop
      rw [hdrop] at hsplit
      have hbody : '}' ∉ rest.takeWhile isBodyChar := by
        intro hc
        exact absurd (hall _ hc) (by decide)
      obtain ⟨c, hc, hs⟩ := h _ after hsplit hbody
      have := hall c hc
      simp [isBodyChar, hs] at this
    · rfl

/-- A brace is literal just when the check of what follows it says so. -/
theorem map_checkLiteral_eq_ok_iff {pos : Nat} {rest : List Char} :
    (checkLiteral pos rest).map (fun _ => (none : Option (Placeholder × List Char))) = .ok none ↔
      checkLiteral pos rest = .ok () := by
  cases checkLiteral pos rest <;> simp [Except.map]

/-! ## The text after an opening brace -/

/-- What can follow an opening brace, as far as it has to be read. -/
inductive BraceText : List Char → Prop where
  | nil : BraceText []
  | closing (tail : List Char) : BraceText ('}' :: tail)
  | noName (c : Char) (tail : List Char) (start : isNameStart c = false) (ne : c ≠ '}') :
    BraceText (c :: tail)
  | nameAtEnd (name : List Char) (h : IsIdentifier name) : BraceText name
  | bare (name after : List Char) (h : IsIdentifier name) : BraceText (name ++ '}' :: after)
  | formatAtEnd (name format : List Char) (h : IsIdentifier name) (hf : Braceless format) :
    BraceText (name ++ ':' :: format)
  | formatted (name format after : List Char) (h : IsIdentifier name) (hf : Braceless format) :
    BraceText (name ++ ':' :: (format ++ '}' :: after))
  | braceInFormat (name format after : List Char) (h : IsIdentifier name)
    (hf : Braceless format) : BraceText (name ++ ':' :: (format ++ '{' :: after))
  | otherwise (name : List Char) (c : Char) (after : List Char)
    (h : IsLongestIdentifier name (c :: after)) (closing : c ≠ '}') (colon : c ≠ ':') :
    BraceText (name ++ c :: after)

/-- An identifier ends where a character cannot be part of it. -/
theorem IsIdentifier.longest_cons {name : List Char} (h : IsIdentifier name) {c : Char}
    (hc : isNameRest c = false) (after : List Char) : IsLongestIdentifier name (c :: after) := by
  refine ⟨h, ?_⟩
  intro d hd
  rw [List.head?_cons, Option.mem_some] at hd
  exact hd ▸ hc

/-- An identifier ends with the text. -/
theorem IsIdentifier.longest_nil {name : List Char} (h : IsIdentifier name) :
    IsLongestIdentifier name [] :=
  ⟨h, by simp⟩

/-- A text is cut at its first brace. -/
theorem braceless_takeWhile (cs : List Char) : Braceless (cs.takeWhile (!isBrace ·)) := by
  intro c hc
  simpa using List.all_eq_true.mp List.all_takeWhile c hc

/-- A format goes as far as the next brace. -/
theorem takeWhile_braceless {format : List Char} (hf : Braceless format) {c : Char}
    (hc : isBrace c = true) (after : List Char) :
    (format ++ c :: after).takeWhile (!isBrace ·) = format := by
  rw [List.takeWhile_append_of_pos fun d hd => by simp [hf d hd],
    List.takeWhile_cons_of_neg (by simp [hc]), List.append_nil]

/-- A text is braceless, or it is cut at its first brace. -/
theorem braceless_or_split (cs : List Char) :
    Braceless cs ∨ ∃ format c after, cs = format ++ c :: after ∧ Braceless format ∧
      (c = '{' ∨ c = '}') := by
  have hsplit := (List.takeWhile_append_dropWhile (p := (!isBrace ·)) (l := cs)).symm
  cases hdrop : cs.dropWhile (!isBrace ·) with
  | nil =>
    left
    rw [hdrop, List.append_nil] at hsplit
    rw [hsplit]
    exact braceless_takeWhile cs
  | cons c after =>
    right
    rw [hdrop] at hsplit
    refine ⟨_, c, after, hsplit, braceless_takeWhile cs, ?_⟩
    have := List.head?_dropWhile_not (!isBrace ·) cs
    rw [hdrop] at this
    simpa [isBrace, or_iff_not_imp_left] using this

/-- Every text is of one of these shapes. -/
theorem braceText (rest : List Char) : BraceText rest := by
  cases rest with
  | nil => exact .nil
  | cons c tail =>
    by_cases hclose : c = '}'
    · exact hclose ▸ .closing tail
    by_cases start : isNameStart c = true
    · have hid : identifier (c :: tail) ≠ [] := by
        rw [identifier, if_pos start]
        exact List.cons_ne_nil _ _
      obtain ⟨after, hrest, hname⟩ := isLongestIdentifier_identifier hid
      generalize identifier (c :: tail) = name at hrest hname
      rw [hrest]
      cases after with
      | nil => exact (List.append_nil name).symm ▸ .nameAtEnd name hname.isIdentifier
      | cons d after =>
        by_cases hd : d = '}'
        · exact hd ▸ .bare name after hname.isIdentifier
        by_cases hcolon : d = ':'
        · subst hcolon
          -- The format goes to the next brace of either kind, or to the end.
          rcases braceless_or_split after with hf | ⟨format, b, rest, rfl, hf, rfl | rfl⟩
          · exact .formatAtEnd name after hname.isIdentifier hf
          · exact .braceInFormat name format rest hname.isIdentifier hf
          · exact .formatted name format rest hname.isIdentifier hf
        · exact .otherwise name d after hname hd hcolon
    · exact .noName c tail (by simpa using start) hclose

/-! ## What is read on each shape -/

variable {pos : Nat} {name format after : List Char}

/-- A brace that no name follows is literal or opens nothing that can be closed. -/
theorem readBrace_noName {c : Char} {tail : List Char} (start : isNameStart c = false)
    (ne : c ≠ '}') :
    readBrace pos (c :: tail) = (checkLiteral pos (c :: tail)).map fun _ => none := by
  have hid : identifier (c :: tail) = [] := by rw [identifier, if_neg (by simp [start])]
  unfold readBrace
  split
  · rename_i heq
    cases heq
  · rename_i heq
    cases heq
    exact absurd rfl ne
  · rw [hid]

/-- A name is read first, and then what follows it. -/
theorem readBrace_name {tail : List Char} (h : IsLongestIdentifier name tail) :
    readBrace pos (name ++ tail) = readAfterName pos name tail := by
  have hid := identifier_append h
  have hdrop : (name ++ tail).drop name.length = tail := List.drop_left
  obtain ⟨c, rest, rfl, start, -⟩ := h.isIdentifier
  unfold readBrace
  split
  · rename_i heq
    cases heq
  · rename_i heq
    cases heq
    exact absurd start (by simp [isNameStart_closing])
  · rw [hid]
    simp only
    rw [hdrop]

/-- A name at the end of the text is never closed. -/
theorem readBrace_nameAtEnd (h : IsIdentifier name) :
    readBrace pos name = .error (.unterminated pos) := by
  have : readBrace pos (name ++ []) = .error (.unterminated pos) := readBrace_name h.longest_nil
  rwa [List.append_nil] at this

/-- A name and a closing brace are a placeholder if the name is known. -/
theorem readBrace_bare (h : IsIdentifier name) :
    readBrace pos (name ++ '}' :: after) = (named pos name none).map fun p => some (p, after) :=
  readBrace_name (h.longest_cons (by decide) after)

/-- A format at the end of the text is never closed. -/
theorem readBrace_formatAtEnd (h : IsIdentifier name) (hf : Braceless format) :
    readBrace pos (name ++ ':' :: format) = .error (.unterminated pos) := by
  have htake : format.takeWhile (!isBrace ·) = format :=
    List.takeWhile_eq_self_iff.mpr fun c hc => by simp [hf c hc]
  rw [readBrace_name (h.longest_cons (by decide) format), readAfterName, htake]
  simp only [List.drop_length]

/-- A name, a format and a closing brace are a placeholder if the name is known. -/
theorem readBrace_formatted (h : IsIdentifier name) (hf : Braceless format) :
    readBrace pos (name ++ ':' :: (format ++ '}' :: after)) =
      (named pos name (some (String.ofList format))).map fun p => some (p, after) := by
  rw [readBrace_name (h.longest_cons (by decide) _), readAfterName,
    takeWhile_braceless hf (by decide)]
  simp only [List.drop_left]

/-- A brace within a format is an error at this brace. -/
theorem readBrace_braceInFormat (h : IsIdentifier name) (hf : Braceless format) :
    readBrace pos (name ++ ':' :: (format ++ '{' :: after)) =
      .error (.malformed (pos + 2 + Text.byteLength name + Text.byteLength format)
        .braceInFormat) := by
  rw [readBrace_name (h.longest_cons (by decide) _), readAfterName,
    takeWhile_braceless hf (by decide)]
  simp only [List.drop_left]
  rfl

/-- A name that neither a colon nor a brace follows is text. -/
theorem readBrace_otherwise {c : Char} (h : IsLongestIdentifier name (c :: after))
    (closing : c ≠ '}') (colon : c ≠ ':') :
    readBrace pos (name ++ c :: after) =
      (checkLiteral pos (name ++ c :: after)).map fun _ => none := by
  rw [readBrace_name h, readAfterName]
  · exact closing
  · exact colon

/-! ## Placeholders -/

/-- Placeholders are made for the names there are, and for no others. -/
theorem named_eq_ok_iff {format : Option String} {p : Placeholder} :
    named pos name format = .ok p ↔
      ∃ n : PlaceholderName, name = n.text.toList ∧ p = Placeholder.at pos n format := by
  unfold named
  split
  · rename_i n hn
    have htext := PlaceholderName.ofText?_eq_some.mp hn
    rw [← String.ofList_toList (s := n.text), String.ofList_inj] at htext
    constructor
    · intro h
      cases h
      exact ⟨n, htext, rfl⟩
    · rintro ⟨m, hm, rfl⟩
      rw [hm, String.ofList_toList, PlaceholderName.ofText?_text] at hn
      cases hn
      rfl
  · rename_i hn
    constructor
    · intro h
      cases h
    · rintro ⟨m, rfl, -⟩
      rw [String.ofList_toList, PlaceholderName.ofText?_text] at hn
      cases hn

theorem map_named_eq_some_iff {format : Option String} {tail : List Char} {p : Placeholder} :
    (named pos name format).map (fun q => some (q, tail)) = .ok (some (p, after)) ↔
      tail = after ∧ ∃ n : PlaceholderName, name = n.text.toList ∧
        p = Placeholder.at pos n format := by
  constructor
  · intro h
    obtain ⟨hnamed, htail⟩ := eq_of_map_some h
    exact ⟨htail, named_eq_ok_iff.mp hnamed⟩
  · rintro ⟨rfl, h⟩
    rw [named_eq_ok_iff.mpr h]
    rfl

/-- The text between the braces of a placeholder, as far as it can be read there. -/
theorem written_append_eq_cons_iff {n : PlaceholderName} {format : Option String}
    {rest : List Char} :
    written n format ++ after = '{' :: rest ↔
      rest = match format with
        | none => n.text.toList ++ '}' :: after
        | some f => n.text.toList ++ ':' :: (f.toList ++ '}' :: after) := by
  cases format <;> simp [written, eq_comm]

/-- Where a placeholder is written out, it is read. -/
theorem readBrace_of_written {n : PlaceholderName} {format : Option String} {rest : List Char}
    (hf : ∀ f, format = some f → Braceless f.toList)
    (h : written n format ++ after = '{' :: rest) :
    readBrace pos rest = .ok (some (Placeholder.at pos n format, after)) := by
  rw [written_append_eq_cons_iff] at h
  have hname := isIdentifier_text n
  cases format with
  | none =>
    rw [h, readBrace_bare hname]
    exact map_named_eq_some_iff.mpr ⟨rfl, n, rfl, rfl⟩
  | some f =>
    rw [h, readBrace_formatted hname (hf f rfl), String.ofList_toList]
    exact map_named_eq_some_iff.mpr ⟨rfl, n, rfl, rfl⟩

/-- A placeholder is read only where one is written out. -/
theorem written_of_readBrace {rest : List Char} {p : Placeholder}
    (h : readBrace pos rest = .ok (some (p, after))) :
    p = Placeholder.at pos p.name p.format ∧ (∀ f, p.format = some f → Braceless f.toList) ∧
      p.print ++ after = '{' :: rest := by
  cases braceText rest with
  | nil => cases h
  | closing tail => cases h
  | noName c tail start ne =>
    rw [readBrace_noName start ne] at h
    exact absurd h map_none_ne_some
  | nameAtEnd name hname =>
    rw [readBrace_nameAtEnd hname] at h
    cases h
  | bare name tail hname =>
    rw [readBrace_bare hname, map_named_eq_some_iff] at h
    obtain ⟨rfl, n, rfl, rfl⟩ := h
    exact ⟨rfl, fun f hf => (by cases hf), written_append_eq_cons_iff.mpr rfl⟩
  | formatAtEnd name format hname hf =>
    rw [readBrace_formatAtEnd hname hf] at h
    cases h
  | formatted name format tail hname hf =>
    rw [readBrace_formatted hname hf, map_named_eq_some_iff] at h
    obtain ⟨rfl, n, rfl, rfl⟩ := h
    refine ⟨rfl, ?_, ?_⟩
    · intro f hformat
      cases hformat
      rwa [String.toList_ofList]
    · refine written_append_eq_cons_iff.mpr ?_
      simp only [Placeholder.at, String.toList_ofList]
  | braceInFormat name format tail hname hf =>
    rw [readBrace_braceInFormat hname hf] at h
    cases h
  | otherwise name c tail hname closing colon =>
    rw [readBrace_otherwise hname closing colon] at h
    exact absurd h map_none_ne_some

/-- What is read as a placeholder is one that is written out. -/
theorem readBrace_eq_some_iff {rest : List Char} {p : Placeholder} :
    readBrace pos rest = .ok (some (p, after)) ↔
      p = Placeholder.at pos p.name p.format ∧ (∀ f, p.format = some f → Braceless f.toList) ∧
        p.print ++ after = '{' :: rest := by
  constructor
  · exact written_of_readBrace
  · rintro ⟨placed, braceless, hprint⟩
    rw [readBrace_of_written braceless hprint, ← placed]

/-! ## Literal braces -/

/-- The longest identifier of a text is one and the same. -/
theorem IsLongestIdentifier.unique {name' tail tail' : List Char}
    (h : IsLongestIdentifier name tail) (h' : IsLongestIdentifier name' tail')
    (heq : name ++ tail = name' ++ tail') : name = name' ∧ tail = tail' := by
  have hname : name = name' := by
    rw [← identifier_append h, ← identifier_append h', heq]
  subst hname
  exact ⟨rfl, List.append_cancel_left heq⟩

/-- No name starts with this character. -/
theorem opensNoName_noName {c : Char} {tail : List Char} (start : isNameStart c = false)
    (ne : c ≠ '}') : OpensNoName (c :: tail) := by
  refine ⟨⟨c, tail, rfl, ne⟩, ?_⟩
  intro name after heq hname
  obtain ⟨d, rest, rfl, hd, -⟩ := hname.isIdentifier
  rw [List.cons_append, List.cons.injEq] at heq
  rw [← heq.1, start] at hd
  cases hd

/-- Behind the name comes what cannot follow one. -/
theorem opensNoName_otherwise {c : Char} (h : IsLongestIdentifier name (c :: after))
    (closing : c ≠ '}') (colon : c ≠ ':') : OpensNoName (name ++ c :: after) := by
  constructor
  · obtain ⟨d, rest, rfl, start, -⟩ := h.isIdentifier
    refine ⟨d, rest ++ c :: after, rfl, ?_⟩
    rintro rfl
    exact absurd start (by simp [isNameStart_closing])
  · intro name' tail heq hname
    obtain ⟨-, rfl⟩ := h.unique hname heq
    exact ⟨c, after, rfl, closing, colon⟩

/-- Where no placeholder can begin, only the search for a sign of JSON decides. -/
theorem readBrace_of_opensNoName {rest : List Char} (h : OpensNoName rest) :
    readBrace pos rest = (checkLiteral pos rest).map fun _ => none := by
  -- No identifier in front goes on as a placeholder would.
  have key : ∀ {name tail : List Char} {c : Char}, rest = name ++ c :: tail →
      IsIdentifier name → isNameRest c = false → c ≠ '}' ∧ c ≠ ':' := by
    intro name tail c heq hname hc
    obtain ⟨d, after, htail, hd⟩ := h.noName name (c :: tail) heq (hname.longest_cons hc tail)
    cases htail
    exact hd
  cases braceText rest with
  | nil =>
    obtain ⟨c, tail, heq, -⟩ := h.follows
    cases heq
  | closing tail =>
    obtain ⟨c, tail, heq, ne⟩ := h.follows
    cases heq
    exact absurd rfl ne
  | noName c tail start ne => exact readBrace_noName start ne
  | nameAtEnd name hname =>
    obtain ⟨c, after, htail, -⟩ :=
      h.noName rest [] (List.append_nil rest).symm hname.longest_nil
    cases htail
  | bare name tail hname => exact absurd rfl (key rfl hname (by decide)).1
  | formatAtEnd name format hname hf => exact absurd rfl (key rfl hname (by decide)).2
  | formatted name format tail hname hf => exact absurd rfl (key rfl hname (by decide)).2
  | braceInFormat name format tail hname hf => exact absurd rfl (key rfl hname (by decide)).2
  | otherwise name c tail hname closing colon => exact readBrace_otherwise hname closing colon

/-- A brace is taken for literal exactly where no placeholder can begin and the next closing brace,
if there is one, comes after a sign of JSON. -/
theorem readBrace_eq_none_iff {rest : List Char} :
    readBrace pos rest = .ok none ↔ OpensNoName rest ∧
      ∀ body after, rest = body ++ '}' :: after → '}' ∉ body →
        ∃ c ∈ body, isStructural c = true := by
  have literal : ∀ {h : OpensNoName rest},
      readBrace pos rest = .ok none ↔ checkLiteral pos rest = .ok () := by
    intro h
    rw [readBrace_of_opensNoName h, map_checkLiteral_eq_ok_iff]
  constructor
  · intro h
    -- The shapes that begin a placeholder are read as one or refused.
    have hno : OpensNoName rest := by
      cases braceText rest with
      | nil => cases h
      | closing tail => cases h
      | noName c tail start ne => exact opensNoName_noName start ne
      | nameAtEnd name hname =>
        rw [readBrace_nameAtEnd hname] at h
        cases h
      | bare name tail hname =>
        rw [readBrace_bare hname] at h
        cases hn : named pos name none <;> rw [hn] at h <;> cases h
      | formatAtEnd name format hname hf =>
        rw [readBrace_formatAtEnd hname hf] at h
        cases h
      | formatted name format tail hname hf =>
        rw [readBrace_formatted hname hf] at h
        cases hn : named pos name (some (String.ofList format)) <;> rw [hn] at h <;> cases h
      | braceInFormat name format tail hname hf =>
        rw [readBrace_braceInFormat hname hf] at h
        cases h
      | otherwise name c tail hname closing colon => exact opensNoName_otherwise hname closing colon
    exact ⟨hno, checkLiteral_eq_ok_iff.mp ((literal (h := hno)).mp h)⟩
  · rintro ⟨hno, h⟩
    exact (literal (h := hno)).mpr (checkLiteral_eq_ok_iff.mpr h)

/-! ## Texts cut short and texts gone on with -/

/-- Where no placeholder can begin, none can begin with more text behind. -/
theorem OpensNoName.append {rest : List Char} (h : OpensNoName rest) (tail : List Char) :
    OpensNoName (rest ++ tail) := by
  have hne : rest ≠ [] := by
    obtain ⟨c, front, rfl, -⟩ := h.follows
    exact List.cons_ne_nil _ _
  have notAll : ¬ IsIdentifier rest := by
    intro hname
    obtain ⟨c, after, hnil, -⟩ := h.noName rest [] (List.append_nil rest).symm hname.longest_nil
    cases hnil
  constructor
  · obtain ⟨c, front, rfl, hc⟩ := h.follows
    exact ⟨c, front ++ tail, rfl, hc⟩
  · -- The identifier ends before the first text does.
    intro name back heq hname
    rcases List.append_eq_append_iff.mp heq with ⟨more, rfl, -⟩ | ⟨more, rfl, rfl⟩
    · exact absurd (hname.isIdentifier.of_append hne) notAll
    · cases more with
      | nil =>
        rw [List.append_nil] at notAll
        exact absurd hname.isIdentifier notAll
      | cons c more =>
        obtain ⟨d, _, hd, hc⟩ := h.noName name (c :: more) rfl ⟨hname.isIdentifier, hname.ends⟩
        cases hd
        exact ⟨c, more ++ tail, rfl, hc⟩

/-- Whether a placeholder can begin is settled by the text up to a closing brace. -/
theorem OpensNoName.of_append {front back : List Char} (h : OpensNoName (front ++ back))
    (closes : '}' ∈ front) : OpensNoName front := by
  constructor
  · obtain ⟨c, tail, heq, hc⟩ := h.follows
    cases front with
    | nil => cases closes
    | cons d front =>
      cases heq
      exact ⟨c, front, rfl, hc⟩
  · intro name tail heq hname
    cases tail with
    | nil =>
      rw [List.append_nil] at heq
      rw [heq] at closes
      exact absurd closes hname.isIdentifier.closing_notMem
    | cons c after =>
      have hsplit : front ++ back = name ++ (c :: after ++ back) := by
        rw [heq, List.append_assoc]
      obtain ⟨d, _, hd, hc⟩ := h.noName name _ hsplit ⟨hname.isIdentifier, hname.ends⟩
      cases hd
      exact ⟨c, after, rfl, hc⟩

end Courier.Template
