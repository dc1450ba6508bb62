/-!
# JSON values and their compact form

Members of an object keep their order and may repeat a key. A number keeps the text it was written
with. A string can escape half of a surrogate pair on its own: it is well formed and denotes no
text, so it is a value of its own kind here.
-/

namespace Courier

/-- A JSON value. -/
inductive Json where
  | null
  | bool (b : Bool)
  | number (literal : String)
  | string (text : String)
  /-- A string that denotes no text. -/
  | brokenString
  | array (items : List Json)
  /-- The keys that denote no text are missing. -/
  | object (members : List (Option String × Json))

namespace Json

/-- The lowercase hexadecimal digit for a number below sixteen. -/
def hexDigit (n : Nat) : Char :=
  if n % 16 < 10 then Char.ofNat (48 + n % 16) else Char.ofNat (87 + n % 16)

/-- A character inside a string: the quote, the backslash and the control characters are escaped,
those with a letter of their own by it. -/
def escape (c : Char) : List Char :=
  if c = '"' then ['\\', '"']
  else if c = '\\' then ['\\', '\\']
  else if c = '\x08' then ['\\', 'b']
  else if c = '\x0c' then ['\\', 'f']
  else if c = '\n' then ['\\', 'n']
  else if c = '\r' then ['\\', 'r']
  else if c = '\t' then ['\\', 't']
  else if c.toNat < 32 then ['\\', 'u', '0', '0', hexDigit (c.toNat / 16), hexDigit c.toNat]
  else [c]

/-- A text between quotes. -/
def quote (s : String) : List Char :=
  '"' :: s.toList.flatMap escape ++ ['"']

/-- A string that denotes no text. -/
def brokenText : List Char :=
  ['"', '\\', 'u', 'd', '8', '0', '0', '"']

/-- A key or a string. -/
def quoteKey : Option String → List Char
  | some s => quote s
  | none => brokenText

/-- Texts with a comma between each two. -/
def commaSeparated : List (List Char) → List Char
  | [] => []
  | [x] => x
  | x :: rest => x ++ ',' :: commaSeparated rest

mutual

/-- The form of a value without blanks. -/
def render : Json → List Char
  | .null => ['n', 'u', 'l', 'l']
  | .bool true => ['t', 'r', 'u', 'e']
  | .bool false => ['f', 'a', 'l', 's', 'e']
  | .number literal => literal.toList
  | .string text => quote text
  | .brokenString => brokenText
  | .array items => '[' :: commaSeparated (renderItems items) ++ [']']
  | .object members => '{' :: commaSeparated (renderMembers members) ++ ['}']

/-- The forms of several values. -/
def renderItems : List Json → List (List Char)
  | [] => []
  | v :: rest => render v :: renderItems rest

/-- The forms of the members of an object. -/
def renderMembers : List (Option String × Json) → List (List Char)
  | [] => []
  | (k, v) :: rest => (quoteKey k ++ ':' :: render v) :: renderMembers rest

end

/-- The compact text of a value. -/
def compact (v : Json) : String :=
  String.ofList v.render

end Json

end Courier
