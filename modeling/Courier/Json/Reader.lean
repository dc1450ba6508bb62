import Courier.Json.Token
import Courier.Json.Value

/-!
# Reading JSON

A value is read token by token with the containers that are still open on a stack, so that nesting
is bounded by memory alone. `read?` accepts exactly one value with blanks around its tokens.
-/

namespace Courier.Json

/-- A container part of the way through, what came last first. -/
inductive Frame where
  | array (items : List Json)
  | object (members : List (Option String × Json))
  /-- An object after a key. -/
  | member (members : List (Option String × Json)) (key : Option String)

/-- What may come next. -/
inductive Expecting where
  | value
  /-- A value, or the end of an array that has just begun. -/
  | valueOrClose
  | key
  /-- A key, or the end of an object that has just begun. -/
  | keyOrClose
  | colon
  /-- A comma or the end of the container. -/
  | separator

/-- How far the reading of a value has come. -/
inductive Reading where
  | finished (v : Json)
  | under (stack : List Frame) (expecting : Expecting)

/-- Puts a complete value where it belongs. -/
def deliver (v : Json) : List Frame → Option Reading
  | [] => some (.finished v)
  | .array items :: rest => some (.under (.array (v :: items) :: rest) .separator)
  | .member members key :: rest => some (.under (.object ((key, v) :: members) :: rest) .separator)
  | .object _ :: _ => none

/-- The value that a token is all by itself, or the container that it begins. -/
def begin (t : Token) (stack : List Frame) : Option Reading :=
  match t with
  | .null => deliver .null stack
  | .bool b => deliver (.bool b) stack
  | .number literal => deliver (.number literal) stack
  | .string (some text) => deliver (.string text) stack
  | .string none => deliver .brokenString stack
  | .openBracket => some (.under (.array [] :: stack) .valueOrClose)
  | .openBrace => some (.under (.object [] :: stack) .keyOrClose)
  | _ => none

/-- Ends the innermost container. -/
def finish (t : Token) : List Frame → Option Reading
  | .array items :: rest => if t = .closeBracket then deliver (.array items.reverse) rest else none
  | .object members :: rest =>
    if t = .closeBrace then deliver (.object members.reverse) rest else none
  | _ => none

/-- Goes on after a comma. -/
def next : List Frame → Option Reading
  | .array items :: rest => some (.under (.array items :: rest) .value)
  | .object members :: rest => some (.under (.object members :: rest) .key)
  | _ => none

/-- Takes a key. -/
def takeKey (t : Token) : List Frame → Option Reading
  | .object members :: rest =>
    match t with
    | .string key => some (.under (.member members key :: rest) .colon)
    | _ => none
  | _ => none

/-- Takes one token. -/
def step (r : Reading) (t : Token) : Option Reading :=
  match r with
  | .finished _ => none
  | .under stack .value => begin t stack
  | .under stack .valueOrClose =>
    if t = .closeBracket then finish t stack else begin t stack
  | .under stack .key => takeKey t stack
  | .under stack .keyOrClose => if t = .closeBrace then finish t stack else takeKey t stack
  | .under stack .colon => if t = .colon then some (.under stack .value) else none
  | .under stack .separator => if t = .comma then next stack else finish t stack

/-- The value of a row of tokens. -/
def ofTokens? (ts : List Token) : Option Json :=
  match ts.foldlM step (.under [] .value) with
  | some (.finished v) => some v
  | _ => none

/-- Reads a JSON text. -/
def read? (s : String) : Option Json :=
  (tokens? s.toList).bind ofTokens?

end Courier.Json
