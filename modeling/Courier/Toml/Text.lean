import Courier.Json.Token

/-!
# TOML text

Blanks, line ends, comments, strings and keys.
-/

namespace Courier.Toml

/-- Space or tab. -/
def isBlank (c : Char) : Bool :=
  c == ' ' || c == '\t'

/-- A character that a comment or a string may hold as it is. -/
def isPrintable (c : Char) : Bool :=
  c == '\t' || (' ' ≤ c && c != '\x7f')

/-- A character of a key without quotes. -/
def isBareKeyChar (c : Char) : Bool :=
  c.isAlphanum || c == '-' || c == '_'

/-- The text after its leading blanks. -/
def skipBlanks (cs : List Char) : List Char :=
  cs.dropWhile isBlank

/-- The text after a line feed, which a carriage return may precede. -/
def lineBreak? : List Char → Option (List Char)
  | '\n' :: rest => some rest
  | '\r' :: '\n' :: rest => some rest
  | _ => none

/-- The text after a comment, if one starts here. -/
def skipComment : List Char → List Char
  | '#' :: rest => rest.dropWhile isPrintable
  | cs => cs

/-- The text after the end of a line: blanks, a comment and a line break or the end of the text. -/
def lineEnd? (cs : List Char) : Option (List Char) :=
  match skipComment (skipBlanks cs) with
  | [] => some []
  | cs => lineBreak? cs

/-- The text after blanks, comments and line breaks. `fuel` bounds the number of lines. -/
def skipLines (fuel : Nat) (cs : List Char) : List Char :=
  let cs := skipComment (skipBlanks cs)
  match fuel with
  | 0 => cs
  | fuel + 1 =>
    match lineBreak? cs with
    | some rest => skipLines fuel rest
    | none => cs

/-! ## Strings -/

/-- The character an escape with a single letter stands for. -/
def letterEscape? : Char → Option Char
  | '"' => some '"'
  | '\\' => some '\\'
  | 'b' => some '\x08'
  | 'f' => some '\x0c'
  | 'n' => some '\n'
  | 'r' => some '\r'
  | 't' => some '\t'
  | _ => none

/-- The character with this code point. -/
def scalar? (code : Nat) : Option Char :=
  if h : code.isValidChar then some (Char.ofNatAux code h) else none

/-- The character four hexadecimal digits stand for. -/
def scalar4? (a b c d : Char) : Option Char :=
  (Json.hex4? a b c d).bind scalar?

/-- The character eight hexadecimal digits stand for. -/
def scalar8? (a b c d e f g h : Char) : Option Char := do
  scalar? (65536 * (← Json.hex4? a b c d) + (← Json.hex4? e f g h))

/-- Reads a string up to its closing quote. `before` holds what was read, the nearest first. -/
def basicRest (before : List Char) : List Char → Option (List Char × List Char)
  | '"' :: rest => some (before.reverse, rest)
  | '\\' :: 'u' :: a :: b :: c :: d :: rest =>
    match scalar4? a b c d with
    | some s => basicRest (s :: before) rest
    | none => none
  | '\\' :: 'U' :: a :: b :: c :: d :: e :: f :: g :: h :: rest =>
    match scalar8? a b c d e f g h with
    | some s => basicRest (s :: before) rest
    | none => none
  | '\\' :: e :: rest =>
    match letterEscape? e with
    | some s => basicRest (s :: before) rest
    | none => none
  | c :: rest => if isPrintable c && c != '\\' then basicRest (c :: before) rest else none
  | [] => none

/-- Reads a string without escapes up to its closing quote. -/
def literalRest (before : List Char) : List Char → Option (List Char × List Char)
  | '\'' :: rest => some (before.reverse, rest)
  | c :: rest => if isPrintable c then literalRest (c :: before) rest else none
  | [] => none

/-- Ends a string of several lines after three quotes; up to two more belong to its text. -/
def closeLong (quote : Char) (before : List Char) (cs : List Char) : List Char × List Char :=
  let more := (cs.takeWhile (· == quote)).take 2
  ((more ++ before).reverse, cs.drop more.length)

/-- The rest of a line is blank, so that a backslash before it joins the next line. -/
def endsLine (cs : List Char) : Bool :=
  (lineBreak? (skipBlanks cs)).isSome

/-- Reads a string of several lines. While `joining`, blanks and line breaks are left out. -/
def longBasicRest (joining : Bool) (before : List Char) : List Char → Option (List Char × List Char)
  | '"' :: '"' :: '"' :: rest => some (closeLong '"' before rest)
  | '\\' :: 'u' :: a :: b :: c :: d :: rest =>
    match scalar4? a b c d with
    | some s => longBasicRest false (s :: before) rest
    | none => none
  | '\\' :: 'U' :: a :: b :: c :: d :: e :: f :: g :: h :: rest =>
    match scalar8? a b c d e f g h with
    | some s => longBasicRest false (s :: before) rest
    | none => none
  | '\\' :: e :: rest =>
    match letterEscape? e with
    | some s => longBasicRest false (s :: before) rest
    | none => if endsLine (e :: rest) then longBasicRest true before (e :: rest) else none
  | '\r' :: '\n' :: rest => longBasicRest joining (if joining then before else '\n' :: before) rest
  | c :: rest =>
    if c == '\n' then longBasicRest joining (if joining then before else c :: before) rest
    else if joining && isBlank c then longBasicRest true before rest
    else if isPrintable c && c != '\\' then longBasicRest false (c :: before) rest
    else none
  | [] => none

/-- Reads a string of several lines without escapes. -/
def longLiteralRest (before : List Char) : List Char → Option (List Char × List Char)
  | '\'' :: '\'' :: '\'' :: rest => some (closeLong '\'' before rest)
  | '\r' :: '\n' :: rest => longLiteralRest ('\n' :: before) rest
  | c :: rest =>
    if c == '\n' || isPrintable c then longLiteralRest (c :: before) rest else none
  | [] => none

/-- The text after a line break that directly follows the opening quotes. -/
def skipFirstBreak (cs : List Char) : List Char :=
  (lineBreak? cs).getD cs

/-- Reads a string of any kind. -/
def string? : List Char → Option (String × List Char)
  | '"' :: '"' :: '"' :: rest => (longBasicRest false [] (skipFirstBreak rest)).map toText
  | '"' :: rest => (basicRest [] rest).map toText
  | '\'' :: '\'' :: '\'' :: rest => (longLiteralRest [] (skipFirstBreak rest)).map toText
  | '\'' :: rest => (literalRest [] rest).map toText
  | _ => none
where
  /-- The characters read as a text. -/
  toText (r : List Char × List Char) : String × List Char := (String.ofList r.1, r.2)

/-! ## Keys -/

/-- Reads one part of a key. -/
def simpleKey? (cs : List Char) : Option (String × List Char) :=
  match cs with
  | '"' :: rest => (basicRest [] rest).map fun (k, after) => (String.ofList k, after)
  | '\'' :: rest => (literalRest [] rest).map fun (k, after) => (String.ofList k, after)
  | _ =>
    let bare := cs.takeWhile isBareKeyChar
    if bare.isEmpty then none else some (String.ofList bare, cs.drop bare.length)

/-- Reads the parts of a key with points and blanks between them. `fuel` bounds their number. -/
def keyParts? (fuel : Nat) (cs : List Char) : Option (List String × List Char) :=
  match fuel with
  | 0 => none
  | fuel + 1 => do
    let (part, rest) ← simpleKey? (skipBlanks cs)
    match skipBlanks rest with
    | '.' :: rest =>
      let (parts, rest) ← keyParts? fuel rest
      return (part :: parts, rest)
    | rest => return ([part], rest)

/-- Keys and values nest less deeply than this. -/
def nestingLimit : Nat := 80

/-- Reads a key: all its parts but the last, and the last. -/
def key? (cs : List Char) : Option ((List String × String) × List Char) := do
  let (parts, rest) ← keyParts? cs.length cs
  let last ← parts.getLast?
  if parts.length < nestingLimit then return ((parts.dropLast, last), rest) else none

end Courier.Toml
