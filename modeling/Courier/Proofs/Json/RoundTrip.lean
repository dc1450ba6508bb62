import Courier.Json.Reader
import Mathlib.Data.List.TakeWhile

/-!
# What is written as JSON is read back

The compact form of a value is split into the tokens it was put together from, whatever characters
its texts hold, and the reader puts the value together again. `Reads` says so of any part of a form:
it takes the reader from one state to another, and parts that follow each other compose.
-/

namespace Courier.Json

/-! ## Splitting off a token -/

/-- A text that is split into this one token, whatever follows. -/
def Lexes (text : List Char) (t : Token) : Prop :=
  ∀ before rest, tokensFrom before (text ++ rest) = tokensFrom (t :: before) rest

/-- A token in front is put on the pile of those before it. -/
theorem tokensFrom_of_token {c : Char} {rest after : List Char} {t : Token} (solid : isBlank c = false)
    (token : token? c rest = some (t, after)) (before : List Token) :
    tokensFrom before (c :: rest) = tokensFrom (t :: before) after := by
  have hdrop : (c :: rest).dropWhile isBlank = c :: rest := by simp [solid]
  rw [tokensFrom]
  split
  · rename_i hnil
    rw [hdrop] at hnil
    cases hnil
  · rename_i c' rest' hcons
    rw [hdrop] at hcons
    cases hcons
    split
    · rename_i t' after' htoken
      rw [token] at htoken
      cases htoken
      rfl
    · rename_i hnone
      rw [token] at hnone
      cases hnone

/-- A character that is a token by itself can be followed by anything. -/
theorem lexes_char {c : Char} {t : Token} (solid : isBlank c = false)
    (token : ∀ rest, token? c rest = some (t, rest)) : Lexes [c] t :=
  fun before rest => tokensFrom_of_token solid (token rest) before

theorem lexes_openBrace : Lexes ['{'] .openBrace :=
  lexes_char rfl fun _ => rfl

theorem lexes_closeBrace : Lexes ['}'] .closeBrace :=
  lexes_char rfl fun _ => rfl

theorem lexes_openBracket : Lexes ['['] .openBracket :=
  lexes_char rfl fun _ => rfl

theorem lexes_closeBracket : Lexes [']'] .closeBracket :=
  lexes_char rfl fun _ => rfl

theorem lexes_comma : Lexes [','] .comma :=
  lexes_char rfl fun _ => rfl

theorem lexes_colon : Lexes [':'] .colon :=
  lexes_char rfl fun _ => rfl

theorem lexes_null : Lexes ['n', 'u', 'l', 'l'] .null :=
  fun before _ => tokensFrom_of_token rfl rfl before

theorem lexes_bool (b : Bool) : Lexes (render (.bool b)) (.bool b) := by
  cases b with
  | true => exact fun before _ => tokensFrom_of_token rfl rfl before
  | false => exact fun before _ => tokensFrom_of_token rfl rfl before

/-! ## Strings -/

/-- A hexadecimal digit is read back. -/
theorem hexValue?_hexDigit (n : Nat) : hexValue? (hexDigit n) = some (n % 16) := by
  have hlt : n % 16 < 16 := Nat.mod_lt n (by decide)
  have hall : ∀ d : Fin 16, hexValue? (hexDigit d) = some d.val := by decide
  have hmod : hexDigit n = hexDigit (n % 16) := by rw [hexDigit, hexDigit, Nat.mod_mod]
  rw [hmod]
  exact hall ⟨n % 16, hlt⟩

/-- The escape of a control character by its number. -/
theorem hex4?_hexDigit {n : Nat} (h : n < 256) :
    hex4? '0' '0' (hexDigit (n / 16)) (hexDigit n) = some n := by
  have hzero : hexValue? '0' = some 0 := rfl
  simp only [hex4?, hzero, hexValue?_hexDigit, Option.bind_eq_bind, Option.bind_some, Option.pure_def,
    Option.some.injEq]
  omega

/-- What is escaped is read as the character it stands for. -/
theorem stringRest_escape (before : List Unit16) (c : Char) (rest : List Char) :
    stringRest before (escape c ++ rest) = stringRest (.scalar c :: before) rest := by
  by_cases hshort : c ∈ ['"', '\\', '\x08', '\x0c', '\n', '\r', '\t']
  · simp only [List.mem_cons, List.not_mem_nil, or_false] at hshort
    rcases hshort with rfl | rfl | rfl | rfl | rfl | rfl | rfl
    all_goals rfl
  · simp only [List.mem_cons, List.not_mem_nil, or_false, not_or] at hshort
    obtain ⟨hquote, hslash, hb, hf, hn, hr, ht⟩ := hshort
    rw [escape, if_neg hquote, if_neg hslash, if_neg hb, if_neg hf, if_neg hn, if_neg hr, if_neg ht]
    by_cases hcontrol : c.toNat < 32
    · have hunit : unitOf c.toNat = .scalar c := by
        rw [unitOf, if_neg (by omega), Char.ofNat_toNat]
      rw [if_pos hcontrol]
      show stringRest before
        ('\\' :: 'u' :: '0' :: '0' :: hexDigit (c.toNat / 16) :: hexDigit c.toNat :: rest) = _
      rw [stringRest, hex4?_hexDigit (by omega)]
      dsimp only
      rw [hunit]
    · rw [if_neg hcontrol]
      show stringRest before (c :: rest) = _
      have hplain : ¬(c.toNat < 32 ∨ c = '\\') := by
        rw [not_or]
        exact ⟨hcontrol, hslash⟩
      rw [stringRest, if_neg hplain]
      -- It begins neither the end of the text nor an escape.
      · exact hquote
      · exact fun _ _ _ _ _ h => absurd h hslash
      · exact fun _ _ h => absurd h hslash

/-- A text is read up to its closing quote. -/
theorem stringRest_flatMap (before : List Unit16) (cs rest : List Char) :
    stringRest before (cs.flatMap escape ++ '"' :: rest) =
      some (before.reverse ++ cs.map .scalar, rest) := by
  induction cs generalizing before with
  | nil => rw [List.flatMap_nil, List.map_nil, List.append_nil]; rfl
  | cons c cs ih =>
    rw [List.flatMap_cons, List.append_assoc, stringRest_escape, ih, List.reverse_cons,
      List.append_assoc]
    rfl

/-- Scalars without surrogates among them are a text as they stand. -/
theorem textOf?_map_scalar (cs : List Char) : textOf? (cs.map .scalar) = some cs := by
  induction cs with
  | nil => rfl
  | cons c cs ih =>
    rw [List.map_cons, textOf?, ih]
    rfl

/-- A text between quotes is one token, and denotes itself. -/
theorem lexes_quote (s : String) : Lexes (quote s) (.string (some s)) := by
  intro before rest
  have htoken : token? '"' (s.toList.flatMap escape ++ '"' :: rest) =
      some (.string (some s), rest) := by
    show (stringRest [] (s.toList.flatMap escape ++ '"' :: rest)).map _ = _
    rw [stringRest_flatMap, List.reverse_nil, List.nil_append, Option.map_some]
    dsimp only
    rw [textOf?_map_scalar, Option.map_some, String.ofList_toList]
  have hquote : quote s ++ rest = '"' :: (s.toList.flatMap escape ++ '"' :: rest) := by
    simp [quote]
  rw [hquote]
  exact tokensFrom_of_token rfl htoken before

/-! ## Numbers -/

/-- A character that may follow a value in a compact form, or a blank behind it. -/
def isDelimiter (c : Char) : Bool :=
  c == ',' || c == ']' || c == '}' || isBlank c

/-- A text that goes on with such a character, or not at all. -/
def Delimited (rest : List Char) : Prop :=
  ∀ c ∈ rest.head?, isDelimiter c = true

theorem delimited_cons {c : Char} (h : isDelimiter c = true) (rest : List Char) :
    Delimited (c :: rest) := by
  intro c' hc'
  cases hc'
  exact h

/-- These are all the characters behind which a value may end. -/
theorem eq_of_isDelimiter {c : Char} (h : isDelimiter c = true) :
    c = ',' ∨ c = ']' ∨ c = '}' ∨ c = ' ' ∨ c = '\n' ∨ c = '\t' ∨ c = '\r' := by
  simpa [isDelimiter, isBlank, or_assoc] using h

/-- The digits of a number end at a delimiter. -/
theorem splitDigits_digits (n : Nat) {rest : List Char} (delimited : Delimited rest) :
    splitDigits (Decimal.digits n ++ rest) = (Decimal.digits n, rest) := by
  have hstop : rest.takeWhile Decimal.isDigit = [] ∧ rest.dropWhile Decimal.isDigit = rest := by
    cases rest with
    | nil => exact ⟨rfl, rfl⟩
    | cons c rest =>
      have hc : Decimal.isDigit c = false := by
        rcases eq_of_isDelimiter (delimited c rfl) with rfl | rfl | rfl | rfl | rfl | rfl | rfl
        all_goals rfl
      exact ⟨List.takeWhile_cons_of_neg (by simp [hc]), List.dropWhile_cons_of_neg (by simp [hc])⟩
  have hall := Decimal.all_isDigit_digits n
  rw [splitDigits, List.takeWhile_append_of_pos hall, List.dropWhile_append_of_pos hall, hstop.1,
    hstop.2, List.append_nil]

theorem isDigit_of_digits_eq {n : Nat} {c : Char} {ds : List Char}
    (h : Decimal.digits n = c :: ds) : Decimal.isDigit c = true := by
  apply Decimal.all_isDigit_digits n
  rw [h]
  exact List.mem_cons_self

/-- Numbers have no needless zero in front, so that they are integers as they stand. -/
theorem integerPart?_digits (n : Nat) {rest : List Char} (delimited : Delimited rest) :
    integerPart? (Decimal.digits n ++ rest) = some (Decimal.digits n, rest) := by
  rw [integerPart?, splitDigits_digits n delimited]
  split
  · rename_i hnil
    exact absurd (congrArg Prod.fst hnil) (Decimal.digits_ne_nil n)
  · rename_i d ds _ hzero
    cases Decimal.tail_digits_of_zero (congrArg Prod.fst hzero)
  · rfl

/-- There is no fraction in front of a delimiter. -/
theorem fractionPart?_of_delimited {rest : List Char} (delimited : Delimited rest) :
    fractionPart? rest = some ([], rest) := by
  cases rest with
  | nil => rfl
  | cons c rest =>
    rcases eq_of_isDelimiter (delimited c rfl) with rfl | rfl | rfl | rfl | rfl | rfl | rfl
    all_goals rfl

/-- There is no exponent in front of a delimiter. -/
theorem exponentPart?_of_delimited {rest : List Char} (delimited : Delimited rest) :
    exponentPart? rest = some ([], rest) := by
  cases rest with
  | nil => rfl
  | cons c rest =>
    rcases eq_of_isDelimiter (delimited c rfl) with rfl | rfl | rfl | rfl | rfl | rfl | rfl
    all_goals rfl

/-- A natural number is read back where a value may end. -/
theorem number?_digits (n : Nat) {rest : List Char} (delimited : Delimited rest) :
    number? (Decimal.digits n ++ rest) = some (Decimal.digits n, rest) := by
  have hsign : ∀ tail, Decimal.digits n ++ rest ≠ '-' :: tail := by
    intro tail heq
    cases hdigits : Decimal.digits n with
    | nil => exact Decimal.digits_ne_nil n hdigits
    | cons c ds =>
      have hc : Decimal.isDigit c = true := isDigit_of_digits_eq hdigits
      rw [hdigits] at heq
      cases heq
      cases hc
  rw [number?]
  · simp only [integerPart?_digits n delimited, fractionPart?_of_delimited delimited,
      exponentPart?_of_delimited delimited, Option.bind_eq_bind, Option.bind_some, Option.pure_def,
      List.nil_append, List.append_nil]
  · exact hsign

/-- A natural number is one token if it ends where a value may. -/
theorem tokensFrom_digits (n : Nat) (before : List Token) {rest : List Char}
    (delimited : Delimited rest) :
    tokensFrom before (Decimal.digits n ++ rest) =
      tokensFrom (.number (String.ofList (Decimal.digits n)) :: before) rest := by
  have hnumber := number?_digits n delimited
  cases hdigits : Decimal.digits n with
  | nil => exact absurd hdigits (Decimal.digits_ne_nil n)
  | cons c ds =>
    have hc : Decimal.isDigit c = true := isDigit_of_digits_eq hdigits
    rw [hdigits] at hnumber
    refine tokensFrom_of_token ?_ ?_ before
    · cases hblank : isBlank c with
      | false => rfl
      | true =>
        have hcases : c = ' ' ∨ c = '\n' ∨ c = '\t' ∨ c = '\r' := by
          simpa [isBlank, or_assoc] using hblank
        rcases hcases with rfl | rfl | rfl | rfl
        all_goals cases hc
    · unfold token?
      split
      any_goals cases hc
      have htoken : (number? (c :: (ds ++ rest))).map
          (fun x => (Token.number (String.ofList x.1), x.2)) =
            some (Token.number (String.ofList (c :: ds)), rest) := by
        rw [← List.cons_append, hnumber]
        rfl
      exact htoken

/-! ## Reading part of a form -/

/-- Where a value may end after it, a text takes the reader from one state to another. -/
def Reads (text : List Char) (r r' : Reading) : Prop :=
  ∃ ts : List Token, (∀ before rest, Delimited rest →
      tokensFrom before (text ++ rest) = tokensFrom (ts.reverse ++ before) rest) ∧
    ts.foldlM step r = some r'

/-- A text that begins where a value may end. -/
def Closes (text : List Char) : Prop :=
  ∃ c tail, text = c :: tail ∧ isDelimiter c = true

section Reads

variable {text text' : List Char} {t : Token} {r r' r'' : Reading}

/-- A token is read in front of a text that is read after it. -/
theorem Reads.token_append (lexes : Lexes text t) (taken : step r t = some r')
    (later : Reads text' r' r'') : Reads (text ++ text') r r'' := by
  obtain ⟨ts, hlexed, htaken⟩ := later
  refine ⟨t :: ts, ?_, ?_⟩
  · intro before rest delimited
    rw [List.append_assoc, lexes, hlexed _ _ delimited, List.reverse_cons, List.append_assoc]
    rfl
  · rw [List.foldlM_cons, taken]
    exact htaken

/-- A token alone is read. -/
theorem Reads.of_token (lexes : Lexes text t) (taken : step r t = some r') : Reads text r r' := by
  refine ⟨[t], fun before rest _ => lexes before rest, ?_⟩
  rw [List.foldlM_cons, taken]
  rfl

/-- Texts are read one after the other when the second begins where a value may end. -/
theorem Reads.append (first : Reads text r r') (later : Reads text' r' r'') (closes : Closes text') :
    Reads (text ++ text') r r'' := by
  obtain ⟨ts, hlexed, htaken⟩ := first
  obtain ⟨ts', hlexed', htaken'⟩ := later
  refine ⟨ts ++ ts', ?_, ?_⟩
  · intro before rest delimited
    have hbetween : Delimited (text' ++ rest) := by
      obtain ⟨c, tail, rfl, hc⟩ := closes
      exact delimited_cons hc (tail ++ rest)
    rw [List.append_assoc, hlexed _ _ hbetween, hlexed' _ _ delimited, List.reverse_append,
      List.append_assoc]
  · rw [List.foldlM_append, htaken]
    exact htaken'

end Reads

/-- Elements with a comma before each are added to those that their container has already. -/
theorem reads_rest {α : Type} {text : α → List Char} {frame : List α → Frame} {stack : List Frame}
    {items done : List α} {tail : List Char} {r : Reading}
    (each : ∀ a ∈ items, ∀ done, Reads (',' :: text a) (.under (frame done :: stack) .separator)
      (.under (frame (a :: done) :: stack) .separator)) (closes : Closes tail)
    (last : Reads tail (.under (frame (items.reverse ++ done) :: stack) .separator) r) :
    Reads (items.flatMap (fun a => ',' :: text a) ++ tail) (.under (frame done :: stack) .separator)
        r ∧ Closes (items.flatMap (fun a => ',' :: text a) ++ tail) := by
  induction items generalizing done with
  | nil => exact ⟨last, closes⟩
  | cons a items ih =>
    rw [List.reverse_cons, List.append_assoc] at last
    obtain ⟨hrest, hcloses⟩ := ih (fun a' ha' => each a' (List.mem_cons_of_mem a ha')) last
    rw [List.flatMap_cons, List.append_assoc]
    exact ⟨(each a List.mem_cons_self done).append hrest hcloses, ',', _, rfl, rfl⟩

/-- There is a comma in front of every text but the first. -/
theorem commaSeparated_cons (x : List Char) (xs : List (List Char)) :
    commaSeparated (x :: xs) = x ++ xs.flatMap (',' :: ·) := by
  induction xs generalizing x with
  | nil => rw [commaSeparated, List.flatMap_nil, List.append_nil]
  | cons y ys ih =>
    have hcons : commaSeparated (x :: y :: ys) = x ++ ',' :: commaSeparated (y :: ys) := rfl
    rw [hcons, ih, List.flatMap_cons]
    rfl

theorem render_array (items : List Json) :
    render (.array items) = ['['] ++ (commaSeparated (items.map render) ++ [']']) := by
  have hitems : renderItems items = items.map render := by
    induction items with
    | nil => rfl
    | cons v items ih => rw [renderItems, ih, List.map_cons]
  rw [render, hitems]
  rfl

/-- The form of a member. -/
def memberText (m : String × Json) : List Char :=
  quote m.1 ++ ':' :: render m.2

theorem render_object (members : List (String × Json)) :
    render (.object (members.map fun (k, v) => (some k, v))) =
      ['{'] ++ (commaSeparated (members.map memberText) ++ ['}']) := by
  have hmembers : renderMembers (members.map fun (k, v) => (some k, v)) =
      members.map memberText := by
    induction members with
    | nil => rfl
    | cons m members ih =>
      rw [List.map_cons, renderMembers, ih, List.map_cons]
      rfl
  rw [render, hmembers]
  rfl

/-! ## Reading a value -/

/-- Values with keys and strings that denote texts, and with natural numbers alone. -/
inductive Plain : Json → Prop where
  | null : Plain .null
  | bool (b : Bool) : Plain (.bool b)
  | natural (n : Nat) : Plain (.number (String.ofList (Decimal.digits n)))
  | string (text : String) : Plain (.string text)
  | array {items : List Json} (each : ∀ v ∈ items, Plain v) : Plain (.array items)
  | object {members : List (String × Json)} (each : ∀ m ∈ members, Plain m.2) :
    Plain (.object (members.map fun (k, v) => (some k, v)))

/-- The states in which a value may come. -/
def Expecting.takesValue (e : Expecting) : Prop :=
  e = .value ∨ e = .valueOrClose

/-- Where a value is expected, every token but a closing bracket begins one. -/
theorem step_value {e : Expecting} (he : e.takesValue) {t : Token} (ht : t ≠ .closeBracket)
    (stack : List Frame) : step (.under stack e) t = begin t stack := by
  rcases he with rfl | rfl
  · rfl
  · exact if_neg ht

/-- The form of the value takes the reader to where the value belongs. -/
def Readable (v : Json) : Prop :=
  ∀ stack e r, Expecting.takesValue e → deliver v stack = some r → Reads (render v) (.under stack e) r

/-- So does the form of a value that is one token. -/
theorem readable_of_token {v : Json} {t : Token} (lexes : Lexes (render v) t)
    (ht : t ≠ .closeBracket) (begins : ∀ stack, begin t stack = deliver v stack) : Readable v := by
  intro stack e r he delivered
  exact .of_token lexes ((step_value he ht stack).trans ((begins stack).trans delivered))

/-- Natural numbers are read back. -/
theorem readable_natural (n : Nat) : Readable (.number (String.ofList (Decimal.digits n))) := by
  intro stack e r he delivered
  refine ⟨[.number (String.ofList (Decimal.digits n))], ?_, ?_⟩
  · intro before rest delimited
    rw [render, String.toList_ofList]
    exact tokensFrom_digits n before delimited
  · rw [List.foldlM_cons, step_value he (by simp)]
    show (deliver _ stack).bind _ = _
    rw [delivered]
    rfl

/-- An array is read back when its items are. -/
theorem readable_array {items : List Json} (each : ∀ v ∈ items, Readable v) :
    Readable (.array items) := by
  intro stack e r he delivered
  have hopen : step (.under stack e) .openBracket =
      some (.under (.array [] :: stack) .valueOrClose) :=
    step_value he (by simp) stack
  cases items with
  | nil =>
    show Reads (['['] ++ [']']) _ _
    exact .token_append lexes_openBracket hopen (.of_token lexes_closeBracket delivered)
  | cons v rest =>
    have hform : render (.array (v :: rest)) =
        ['['] ++ (render v ++ (rest.flatMap (fun a => ',' :: render a) ++ [']'])) := by
      rw [render_array, List.map_cons, commaSeparated_cons, List.flatMap_map, List.append_assoc]
    -- The first item may be missing; each later one is announced by a comma.
    have hfirst : Reads (render v) (.under (.array [] :: stack) .valueOrClose)
        (.under (.array [v] :: stack) .separator) :=
      each v List.mem_cons_self _ _ _ (Or.inr rfl) rfl
    have heach : ∀ a ∈ rest, ∀ done,
        Reads (',' :: render a) (.under (.array done :: stack) .separator)
          (.under (.array (a :: done) :: stack) .separator) := by
      intro a ha done
      have hvalue : Reads (render a) (.under (.array done :: stack) .value)
          (.under (.array (a :: done) :: stack) .separator) :=
        each a (List.mem_cons_of_mem v ha) _ _ _ (Or.inl rfl) rfl
      exact .token_append lexes_comma rfl hvalue
    have hclose : Reads [']'] (.under (.array (rest.reverse ++ [v]) :: stack) .separator) r := by
      refine .of_token lexes_closeBracket ?_
      show deliver (.array (rest.reverse ++ [v]).reverse) stack = some r
      rw [List.reverse_append, List.reverse_reverse]
      exact delivered
    obtain ⟨hrest, hcloses⟩ := reads_rest heach ⟨']', [], rfl, rfl⟩ hclose
    rw [hform]
    exact .token_append lexes_openBracket hopen (hfirst.append hrest hcloses)

/-- An object part of the way through, with these members, what came last first. -/
def objectFrame (members : List (String × Json)) : Frame :=
  .object (members.map fun (k, v) => (some k, v))

/-- A member is read as a key, a colon and a value. -/
theorem reads_member {m : String × Json} (readable : Readable m.2) {e : Expecting}
    (he : e = .key ∨ e = .keyOrClose) (done : List (String × Json)) (stack : List Frame) :
    Reads (memberText m) (.under (objectFrame done :: stack) e)
      (.under (objectFrame (m :: done) :: stack) .separator) := by
  let opened : Frame := .member (done.map fun (k, v) => (some k, v)) (some m.1)
  have hvalue : Reads (render m.2) (.under (opened :: stack) .value)
      (.under (objectFrame (m :: done) :: stack) .separator) :=
    readable _ _ _ (Or.inl rfl) rfl
  have hcolon : Reads ([':'] ++ render m.2) (.under (opened :: stack) .colon)
      (.under (objectFrame (m :: done) :: stack) .separator) :=
    .token_append lexes_colon rfl hvalue
  refine .token_append (lexes_quote m.1) ?_ hcolon
  rcases he with rfl | rfl
  all_goals rfl

/-- An object is read back when its members are. -/
theorem readable_object {members : List (String × Json)} (each : ∀ m ∈ members, Readable m.2) :
    Readable (.object (members.map fun (k, v) => (some k, v))) := by
  intro stack e r he delivered
  have hopen : step (.under stack e) .openBrace =
      some (.under (objectFrame [] :: stack) .keyOrClose) :=
    step_value he (by simp) stack
  cases members with
  | nil =>
    show Reads (['{'] ++ ['}']) _ _
    exact .token_append lexes_openBrace hopen (.of_token lexes_closeBrace delivered)
  | cons m rest =>
    have hform : render (.object ((m :: rest).map fun (k, v) => (some k, v))) =
        ['{'] ++ (memberText m ++ (rest.flatMap (fun a => ',' :: memberText a) ++ ['}'])) := by
      rw [render_object, List.map_cons, commaSeparated_cons, List.flatMap_map, List.append_assoc]
    have hfirst := reads_member (each m List.mem_cons_self) (Or.inr rfl) [] stack
    have heach : ∀ a ∈ rest, ∀ done,
        Reads (',' :: memberText a) (.under (objectFrame done :: stack) .separator)
          (.under (objectFrame (a :: done) :: stack) .separator) := by
      intro a ha done
      exact .token_append lexes_comma rfl
        (reads_member (each a (List.mem_cons_of_mem m ha)) (Or.inl rfl) done stack)
    -- A frame has its members the other way round.
    have hclose : Reads ['}'] (.under (objectFrame (rest.reverse ++ [m]) :: stack) .separator) r := by
      refine .of_token lexes_closeBrace ?_
      show deliver (.object ((rest.reverse ++ [m]).map fun (k, v) => (some k, v)).reverse) stack =
        some r
      rw [← List.map_reverse, List.reverse_append, List.reverse_reverse]
      exact delivered
    obtain ⟨hrest, hcloses⟩ := reads_rest heach ⟨'}', [], rfl, rfl⟩ hclose
    rw [hform]
    exact .token_append lexes_openBrace hopen (hfirst.append hrest hcloses)

/-- Plain values are read back. -/
theorem readable_of_plain {v : Json} (plain : Plain v) : Readable v := by
  induction plain with
  | null => exact readable_of_token lexes_null (by simp) fun _ => rfl
  | bool b => exact readable_of_token (lexes_bool b) (by simp) fun _ => rfl
  | natural n => exact readable_natural n
  | string text => exact readable_of_token (lexes_quote text) (by simp) fun _ => rfl
  | array _ ih => exact readable_array ih
  | object _ ih => exact readable_object ih

/-- What is written is read back, also with blanks behind it. -/
theorem read?_compact_append {v : Json} (plain : Plain v) {blanks : String}
    (h : ∀ c ∈ blanks.toList, isBlank c = true) : read? (v.compact ++ blanks) = some v := by
  have hreads : Reads (render v) (.under [] .value) (.finished v) :=
    readable_of_plain plain _ _ _ (Or.inl rfl) rfl
  obtain ⟨ts, hlexed, htaken⟩ := hreads
  have delimited : Delimited blanks.toList := by
    intro c hc
    rw [isDelimiter, h c (List.mem_of_mem_head? hc), Bool.or_true]
  have hdrop : blanks.toList.dropWhile isBlank = [] := List.dropWhile_eq_nil_iff.mpr h
  have htokens : tokens? (v.render ++ blanks.toList) = some ts := by
    rw [tokens?, hlexed [] _ delimited, List.append_nil, tokensFrom]
    split
    · rw [List.reverse_reverse]
    · rename_i hcons
      rw [hdrop] at hcons
      cases hcons
  rw [read?, compact, String.toList_append, String.toList_ofList, htokens, Option.bind_some,
    ofTokens?, htaken]

/-- What is written is read back. -/
theorem read?_compact {v : Json} (plain : Plain v) : read? v.compact = some v := by
  have hread : read? (v.compact ++ "") = some v := read?_compact_append plain (by simp)
  rwa [String.append_empty] at hread

/-! ## Lines -/

theorem hexDigit_ne_newline (n : Nat) : '\n' ≠ hexDigit n := by
  intro h
  have hvalue := hexValue?_hexDigit n
  rw [← h] at hvalue
  cases hvalue

/-- Line feeds are escaped. -/
theorem newline_notMem_escape (c : Char) : '\n' ∉ escape c := by
  rw [escape]
  by_cases hn : c = '\n'
  · subst hn
    decide
  · repeat' split
    all_goals simp [hexDigit_ne_newline, Ne.symm hn]

/-- A quoted text stays on its line. -/
theorem newline_notMem_quote (s : String) : '\n' ∉ quote s := by
  intro h
  have hmem : '\n' ∈ s.toList.flatMap escape := by simpa [quote] using h
  obtain ⟨c, -, hc⟩ := List.mem_flatMap.mp hmem
  exact newline_notMem_escape c hc

theorem newline_notMem_commaSeparated {xs : List (List Char)} (h : ∀ x ∈ xs, '\n' ∉ x) :
    '\n' ∉ commaSeparated xs := by
  cases xs with
  | nil => exact List.not_mem_nil
  | cons x xs =>
    intro hmem
    rw [commaSeparated_cons, List.mem_append] at hmem
    rcases hmem with hfirst | hrest
    · exact h x List.mem_cons_self hfirst
    · obtain ⟨y, hy, hmem⟩ := List.mem_flatMap.mp hrest
      have hy' : '\n' ∈ y := by simpa using hmem
      exact h y (List.mem_cons_of_mem x hy) hy'

/-- The form of a value is a single line. -/
theorem newline_notMem_render {v : Json} (plain : Plain v) : '\n' ∉ render v := by
  induction plain with
  | null => decide
  | bool b => cases b <;> decide
  | natural n =>
    intro h
    rw [render, String.toList_ofList] at h
    cases Decimal.all_isDigit_digits n _ h
  | string text => exact newline_notMem_quote text
  | @array items _ ih =>
    have hitems : '\n' ∉ commaSeparated (items.map render) := by
      apply newline_notMem_commaSeparated
      intro x hx
      obtain ⟨v, hv, rfl⟩ := List.mem_map.mp hx
      exact ih v hv
    rw [render_array]
    simpa using hitems
  | @object members _ ih =>
    have hmembers : '\n' ∉ commaSeparated (members.map memberText) := by
      apply newline_notMem_commaSeparated
      intro x hx
      obtain ⟨m, hm, rfl⟩ := List.mem_map.mp hx
      rw [memberText, List.mem_append, List.mem_cons, not_or, not_or]
      exact ⟨newline_notMem_quote m.1, by decide, ih m hm⟩
    rw [render_object]
    simpa using hmembers

end Courier.Json
