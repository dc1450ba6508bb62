import Courier.Template.ParseError
import Courier.Template.Placeholder
import Courier.Text.Blank

/-!
# Lexemes of a field

A field is read as a row of lexemes: characters other than braces, placeholders, and literal
braces, which must be balanced. An opening brace is literal when one of `"`, `{`, `,`, `[` comes
before the next closing brace, as in a JSON payload; a brace that is neither literal nor opens a
placeholder is a misspelled placeholder and an error.
-/

namespace Courier.Template

/-- The smallest parts of a field. -/
inductive Lexeme where
  /-- A character other than a brace. -/
  | plain (c : Char)
  /-- A literal opening brace. -/
  | opening
  /-- A literal closing brace. -/
  | closing
  | placeholder (p : Placeholder)
deriving DecidableEq, Repr

/-- The written form of a lexeme. -/
def Lexeme.print : Lexeme → List Char
  | .plain c => [c]
  | .opening => ['{']
  | .closing => ['}']
  | .placeholder p => p.print

/-- The written form of a row of lexemes. -/
def printLexemes (ls : List Lexeme) : List Char :=
  ls.flatMap Lexeme.print

/-! ## Character classes -/

/-- A character that may start an identifier. -/
def isNameStart (c : Char) : Bool :=
  c.isAlpha || c == '_'

/-- A character that may go on with an identifier. -/
def isNameRest (c : Char) : Bool :=
  c.isAlphanum || c == '_'

/-- A brace of either kind. -/
def isBrace (c : Char) : Bool :=
  c == '{' || c == '}'

/-- A character that shows the text after a brace to be JSON. -/
def isStructural (c : Char) : Bool :=
  c == '"' || c == '{' || c == ',' || c == '['

/-- A character that goes on with the body of a misspelled placeholder. -/
def isBodyChar (c : Char) : Bool :=
  c != '}' && !isStructural c

/-- The longest identifier at the front; empty when there is none. -/
def identifier : List Char → List Char
  | [] => []
  | c :: rest => if isNameStart c then c :: rest.takeWhile isNameRest else []

/-! ## Reading one brace -/

/-- Why braces around a body that is no well-formed placeholder are refused. -/
def refusal (start : Nat) (body : List Char) : ParseError :=
  match body with
  | [] => .malformed start .invalidName
  | c :: _ =>
    if isNameStart c then .unknownName (String.ofList (body.takeWhile (· != ':'))) start
    else if c == ':' then .malformed start .missingName
    else if Text.isAsciiBlank c then .malformed start .blankBeforeName
    else .malformed start .invalidName

/-- Decides on a brace at `start` that opens no placeholder: it is literal unless a closing brace
comes before the first sign of JSON. -/
def checkLiteral (start : Nat) (rest : List Char) : Except ParseError Unit :=
  match rest.dropWhile isBodyChar with
  | '}' :: _ => .error (refusal start (rest.takeWhile isBodyChar))
  | _ => .ok ()

/-- Looks up the name of a placeholder whose braces and format are in order. -/
def named (start : Nat) (name : List Char) (format : Option String) :
    Except ParseError Placeholder :=
  match PlaceholderName.ofText? (String.ofList name) with
  | some n => .ok (Placeholder.at start n format)
  | none => .error (.unknownName (String.ofList name) start)

/-- Reads what follows a name after an opening brace at `start`: the rest of a placeholder and the
text after it, or nothing when the brace is literal. -/
def readAfterName (start : Nat) (name tail : List Char) :
    Except ParseError (Option (Placeholder × List Char)) :=
  match tail with
  | [] => .error (.unterminated start)
  | '}' :: after => (named start name none).map fun p => some (p, after)
  | ':' :: body =>
    let format := body.takeWhile (!isBrace ·)
    match body.drop format.length with
    | [] => .error (.unterminated start)
    | '}' :: after =>
      (named start name (some (String.ofList format))).map fun p => some (p, after)
    | _ :: _ =>
      -- The second brace comes after the first one, the name, the colon and the format.
      let offset := start + 2 + Text.byteLength name + Text.byteLength format
      .error (.malformed offset .braceInFormat)
  | _ :: _ => (checkLiteral start (name ++ tail)).map fun _ => none

/-- Reads what follows an opening brace at `start`: a placeholder and the text after it, or nothing
when the brace is literal. -/
def readBrace (start : Nat) (rest : List Char) :
    Except ParseError (Option (Placeholder × List Char)) :=
  match rest with
  | [] => .error (.unterminated start)
  | '}' :: _ => .error (.malformed start .emptyBody)
  | _ =>
    match identifier rest with
    -- Without a name there is no placeholder, so the brace is literal or misspelled.
    | [] => (checkLiteral start rest).map fun _ => none
    | name@(_ :: _) => readAfterName start name (rest.drop name.length)

/-- A literal brace is no placeholder. -/
theorem map_none_ne_some {x : Except ParseError Unit} {p : Placeholder × List Char} :
    x.map (fun _ => (none : Option (Placeholder × List Char))) ≠ .ok (some p) := by
  cases x <;> simp [Except.map]

/-- The text after a placeholder is what its reader left. -/
theorem eq_of_map_some {x : Except ParseError Placeholder} {p : Placeholder}
    {tail after : List Char} (h : x.map (fun q => some (q, tail)) = .ok (some (p, after))) :
    x = .ok p ∧ tail = after := by
  cases x with
  | error e => cases h
  | ok q =>
    simp only [Except.map, Except.ok.injEq, Option.some.injEq, Prod.mk.injEq] at h
    exact ⟨congrArg _ h.1, h.2⟩

theorem length_lt_of_drop {n : Nat} {c : Char} {cs after : List Char}
    (h : cs.drop n = c :: after) : after.length < cs.length := by
  have := congrArg List.length h
  simp only [List.length_drop, List.length_cons] at this
  omega

theorem length_lt_of_readAfterName {start : Nat} {name tail after : List Char} {p : Placeholder}
    (h : readAfterName start name tail = .ok (some (p, after))) : after.length < tail.length := by
  unfold readAfterName at h
  split at h
  · cases h
  · rw [(eq_of_map_some h).2, List.length_cons]
    exact Nat.lt_succ_self _
  · simp only at h
    split at h
    · cases h
    · rename_i hd
      rw [← (eq_of_map_some h).2, List.length_cons]
      exact Nat.lt_succ_of_lt (length_lt_of_drop hd)
    · cases h
  · exact absurd h map_none_ne_some

/-- What is left after a placeholder is shorter than what followed its opening brace. -/
theorem length_lt_of_readBrace {start : Nat} {rest after : List Char} {p : Placeholder}
    (h : readBrace start rest = .ok (some (p, after))) : after.length < rest.length := by
  unfold readBrace at h
  split at h
  · cases h
  · cases h
  · split at h
    · exact absurd h map_none_ne_some
    · have := length_lt_of_readAfterName h
      rw [List.length_drop] at this
      omega

/-! ## Reading a row of lexemes -/

/-- Reads lexemes from byte position `pos` on. `opened` holds the positions of the literal opening
braces that wait for their closing brace, the innermost first; `before` holds the lexemes before
`pos`, the nearest first. -/
def lexFrom (pos : Nat) (opened : List Nat) (before : List Lexeme) (cs : List Char) :
    Except ParseError (List Lexeme) :=
  match cs with
  | [] =>
    -- Of several open braces the outermost is to blame.
    match opened.getLast? with
    | some start => .error (.malformed start .unmatchedOpening)
    | none => .ok before.reverse
  | '{' :: rest =>
    match h : readBrace pos rest with
    | .error e => .error e
    | .ok none => lexFrom (pos + 1) (pos :: opened) (.opening :: before) rest
    | .ok (some (p, after)) =>
      have := length_lt_of_readBrace h
      lexFrom p.stop opened (.placeholder p :: before) after
  -- A closing brace ends the innermost literal brace.
  | '}' :: rest =>
    match opened with
    | [] => .error (.malformed pos .unmatchedClosing)
    | _ :: outer => lexFrom (pos + 1) outer (.closing :: before) rest
  | c :: rest => lexFrom (pos + c.utf8Size) opened (.plain c :: before) rest
termination_by cs.length

/-- The lexemes of a field. -/
def lex (cs : List Char) : Except ParseError (List Lexeme) :=
  lexFrom 0 [] [] cs

end Courier.Template
