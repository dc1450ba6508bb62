import Courier.Text.Decimal

/-!
# JSON tokens

A JSON text is a row of tokens with blanks between them. A string token holds the text it denotes,
or nothing when one of its escapes names half of a surrogate pair without the other half.
-/

namespace Courier.Json

/-- The smallest parts of a JSON text. -/
inductive Token where
  | openBrace
  | closeBrace
  | openBracket
  | closeBracket
  | comma
  | colon
  | null
  | bool (b : Bool)
  | number (literal : String)
  | string (text : Option String)
deriving DecidableEq, Repr

/-- A blank between tokens. -/
def isBlank (c : Char) : Bool :=
  c == ' ' || c == '\n' || c == '\t' || c == '\r'

/-! ## Strings -/

/-- A character of a string, or half of a surrogate pair named by an escape. -/
inductive Unit16 where
  | scalar (c : Char)
  | half (code : Nat)
deriving DecidableEq, Repr

/-- The value of a hexadecimal digit in either case. -/
def hexValue? (c : Char) : Option Nat :=
  if '0' ≤ c ∧ c ≤ '9' then some (c.toNat - 48)
  else if 'a' ≤ c ∧ c ≤ 'f' then some (c.toNat - 87)
  else if 'A' ≤ c ∧ c ≤ 'F' then some (c.toNat - 55)
  else none

/-- The number four hexadecimal digits denote. -/
def hex4? (a b c d : Char) : Option Nat := do
  return 4096 * (← hexValue? a) + 256 * (← hexValue? b) + 16 * (← hexValue? c) + (← hexValue? d)

/-- The character an escape with a single letter stands for. -/
def letterEscape? : Char → Option Char
  | '"' => some '"'
  | '\\' => some '\\'
  | '/' => some '/'
  | 'b' => some '\x08'
  | 'f' => some '\x0c'
  | 'n' => some '\n'
  | 'r' => some '\r'
  | 't' => some '\t'
  | _ => none

/-- A code of sixteen bits as a character, or as half of a surrogate pair. -/
def unitOf (code : Nat) : Unit16 :=
  if 0xD800 ≤ code ∧ code < 0xE000 then .half code else .scalar (Char.ofNat code)

/-- Reads the rest of a string up to its closing quote. `before` holds what was read, the nearest
first. -/
def stringRest (before : List Unit16) : List Char → Option (List Unit16 × List Char)
  | [] => none
  | '"' :: rest => some (before.reverse, rest)
  | '\\' :: 'u' :: a :: b :: c :: d :: rest =>
    match hex4? a b c d with
    | some code => stringRest (unitOf code :: before) rest
    | none => none
  | '\\' :: e :: rest =>
    match letterEscape? e with
    | some c => stringRest (.scalar c :: before) rest
    | none => none
  | c :: rest => if c.toNat < 32 ∨ c = '\\' then none else stringRest (.scalar c :: before) rest

/-- What follows a string is shorter, as the closing quote is used up. -/
theorem length_lt_of_stringRest {before us : List Unit16} {cs rest : List Char}
    (h : stringRest before cs = some (us, rest)) : rest.length < cs.length := by
  fun_induction stringRest before cs with
  | case1 => cases h
  | case2 before rest => cases h; simp
  | case3 before a b c d tail code hc ih => have := ih h; simp only [List.length_cons]; omega
  | case4 => cases h
  | case5 before e tail hne c hc ih => have := ih h; simp only [List.length_cons]; omega
  | case6 => cases h
  | case7 => cases h
  | case8 before c tail h1 h2 h3 h4 ih => have := ih h; simp only [List.length_cons]; omega

/-- The text of a row of units; the halves of a pair must follow each other, the high one first. -/
def textOf? : List Unit16 → Option (List Char)
  | [] => some []
  | .scalar c :: rest => (textOf? rest).map (c :: ·)
  | .half high :: .half low :: rest =>
    -- Each half holds ten bits of the code point.
    if high < 0xDC00 ∧ 0xDC00 ≤ low then
      (textOf? rest).map (Char.ofNat (0x10000 + 1024 * (high - 0xD800) + (low - 0xDC00)) :: ·)
    else none
  | .half _ :: _ => none

/-! ## Numbers -/

/-- Splits the longest row of digits off the front. -/
def splitDigits (cs : List Char) : List Char × List Char :=
  (cs.takeWhile Decimal.isDigit, cs.dropWhile Decimal.isDigit)

/-- Splits off the digits before the point: one zero, or digits that do not start with zero. -/
def integerPart? (cs : List Char) : Option (List Char × List Char) :=
  match splitDigits cs with
  | ([], _) => none
  -- A zero in front of other digits.
  | ('0' :: _ :: _, _) => none
  | parts => some parts

/-- Splits off a point and the digits after it, if there is a point. -/
def fractionPart? (cs : List Char) : Option (List Char × List Char) :=
  match cs with
  | '.' :: rest =>
    match splitDigits rest with
    | ([], _) => none
    | (ds, after) => some ('.' :: ds, after)
  | _ => some ([], cs)

/-- Splits off an exponent, if there is one. -/
def exponentPart? (cs : List Char) : Option (List Char × List Char) :=
  match cs with
  | c :: rest =>
    if c = 'e' ∨ c = 'E' then
      let (sign, body) := match rest with
        | '+' :: body => (['+'], body)
        | '-' :: body => (['-'], body)
        | _ => ([], rest)
      match splitDigits body with
      | ([], _) => none
      | (ds, after) => some (c :: sign ++ ds, after)
    else some ([], cs)
  | [] => some ([], [])

/-- Splits a number off the front. -/
def number? (cs : List Char) : Option (List Char × List Char) := do
  let (sign, body) := match cs with
    | '-' :: rest => (['-'], rest)
    | _ => ([], cs)
  let (integer, rest) ← integerPart? body
  let (fraction, rest) ← fractionPart? rest
  let (exponent, rest) ← exponentPart? rest
  return (sign ++ integer ++ fraction ++ exponent, rest)

/-! ## Rows of tokens -/

/-- Splits a fixed word off the front. -/
def word? (word : List Char) (cs : List Char) : Option (List Char) :=
  if word.isPrefixOf cs then some (cs.drop word.length) else none

/-- Splits one token off a text that starts with neither a blank nor its end. -/
def token? (c : Char) (rest : List Char) : Option (Token × List Char) :=
  match c with
  | '{' => some (.openBrace, rest)
  | '}' => some (.closeBrace, rest)
  | '[' => some (.openBracket, rest)
  | ']' => some (.closeBracket, rest)
  | ',' => some (.comma, rest)
  | ':' => some (.colon, rest)
  | 'n' => (word? ['u', 'l', 'l'] rest).map (Token.null, ·)
  | 't' => (word? ['r', 'u', 'e'] rest).map (Token.bool true, ·)
  | 'f' => (word? ['a', 'l', 's', 'e'] rest).map (Token.bool false, ·)
  | '"' => (stringRest [] rest).map fun (us, after) =>
    (.string ((textOf? us).map String.ofList), after)
  | c => (number? (c :: rest)).map fun (ds, after) => (.number (String.ofList ds), after)

/-- A number takes up at least one digit. -/
theorem length_lt_of_integerPart? {cs ds rest : List Char}
    (h : integerPart? cs = some (ds, rest)) : rest.length < cs.length := by
  have hlen : (cs.takeWhile Decimal.isDigit).length + (cs.dropWhile Decimal.isDigit).length
      = cs.length := by
    rw [← List.length_append, List.takeWhile_append_dropWhile]
  unfold integerPart? splitDigits at h
  split at h
  · cases h
  · cases h
  · rename_i h0 _
    cases h
    cases hd : cs.takeWhile Decimal.isDigit with
    | nil => exact absurd (by rw [hd]) (h0 _)
    | cons c ds => rw [hd, List.length_cons] at hlen; omega

/-- A fraction may be missing. -/
theorem length_le_of_fractionPart? {cs ds rest : List Char}
    (h : fractionPart? cs = some (ds, rest)) : rest.length ≤ cs.length := by
  unfold fractionPart? splitDigits at h
  split at h
  · split at h
    · cases h
    · rename_i body _ _ _ _ heq
      cases heq
      cases h
      exact Nat.le_succ_of_le (List.dropWhile_sublist _).length_le
  · cases h
    exact Nat.le_refl _

/-- An exponent may be missing. -/
theorem length_le_of_exponentPart? {cs ds rest : List Char}
    (h : exponentPart? cs = some (ds, rest)) : rest.length ≤ cs.length := by
  have drop : ∀ l : List Char, (l.dropWhile Decimal.isDigit).length ≤ l.length :=
    fun l => (List.dropWhile_sublist _).length_le
  unfold exponentPart? splitDigits at h
  split at h
  · rename_i c tail
    split at h
    · simp only at h
      split at h
      · cases h
      · rename_i heq
        cases heq
        cases h
        simp only [List.length_cons]
        split
        · exact Nat.le_succ_of_le (Nat.le_succ_of_le (drop _))
        · exact Nat.le_succ_of_le (Nat.le_succ_of_le (drop _))
        · exact Nat.le_succ_of_le (drop _)
    · cases h
      exact Nat.le_refl _
  · cases h
    exact Nat.le_refl _

/-- What follows a number is shorter, as there is a digit in its integer part. -/
theorem length_lt_of_number? {cs ds rest : List Char}
    (h : number? cs = some (ds, rest)) : rest.length < cs.length := by
  simp only [number?, Option.bind_eq_bind, Option.bind_eq_some_iff, Prod.exists, Option.pure_def,
    Option.some.injEq, Prod.mk.injEq] at h
  obtain ⟨i, r₁, h₁, f, r₂, h₂, e, r₃, h₃, -, rfl⟩ := h
  have := length_lt_of_integerPart? h₁
  have := length_le_of_fractionPart? h₂
  have := length_le_of_exponentPart? h₃
  split at * <;> simp only [List.length_cons] at * <;> omega

theorem length_le_of_word? {word cs rest : List Char} (h : word? word cs = some rest) :
    rest.length ≤ cs.length := by
  unfold word? at h
  split at h
  · cases h
    rw [List.length_drop]
    exact Nat.sub_le _ _
  · cases h

/-- No token gives anything back. -/
theorem length_le_of_token? {c : Char} {rest after : List Char} {t : Token}
    (h : token? c rest = some (t, after)) : after.length ≤ rest.length := by
  unfold token? at h
  split at h
  any_goals (cases h; exact Nat.le_refl _)
  · obtain ⟨x, hx, he⟩ := Option.map_eq_some_iff.mp h
    cases he
    exact length_le_of_word? hx
  · obtain ⟨x, hx, he⟩ := Option.map_eq_some_iff.mp h
    cases he
    exact length_le_of_word? hx
  · obtain ⟨x, hx, he⟩ := Option.map_eq_some_iff.mp h
    cases he
    exact length_le_of_word? hx
  · obtain ⟨x, hx, he⟩ := Option.map_eq_some_iff.mp h
    cases he
    exact Nat.le_of_lt (length_lt_of_stringRest hx)
  · obtain ⟨x, hx, he⟩ := Option.map_eq_some_iff.mp h
    cases he
    exact Nat.le_of_lt_succ (length_lt_of_number? hx)

/-- Splits a text into tokens; `before` holds those read so far, the nearest first. -/
def tokensFrom (before : List Token) (cs : List Char) : Option (List Token) :=
  match hb : cs.dropWhile isBlank with
  | [] => some before.reverse
  | c :: rest =>
    match ht : token? c rest with
    | some (t, after) =>
      have : after.length < cs.length := by
        have h₁ := length_le_of_token? ht
        have h₂ := (List.dropWhile_sublist (l := cs) isBlank).length_le
        rw [hb, List.length_cons] at h₂
        omega
      tokensFrom (t :: before) after
    | none => none
termination_by cs.length

/-- The tokens of a text. -/
def tokens? (cs : List Char) : Option (List Token) :=
  tokensFrom [] cs

end Courier.Json
