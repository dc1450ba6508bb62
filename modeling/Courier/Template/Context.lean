import Courier.Template.Directive

/-!
# The context of one message

Every message has an index and an instant of its own, fixed while it is made; each occurrence of
`{uuid}` draws a new identifier. A context can keep the set of the identifiers drawn in it.
-/

namespace Courier.Template

/-- The index and the instant of a message, and the identifiers drawn for it if they are kept. -/
structure Context where
  index : Nat
  instant : Time.Instant
  /-- The identifiers drawn so far, without repetition; absent when they are not kept. -/
  issued : Option (List Uuid) := none

namespace Context

/-- A context that keeps the identifiers drawn in it if asked to. -/
def make (index : Nat) (instant : Time.Instant) (tracking : Bool) : Context :=
  { index, instant, issued := if tracking then some [] else none }

/-- Notes an identifier if identifiers are kept. -/
def note (c : Context) (id : Uuid) : Context :=
  { c with issued := c.issued.map (List.insert id) }

/-- How many different identifiers were drawn, if they are kept. -/
def issuedCount (c : Context) : Option Nat :=
  c.issued.map List.length

end Context

/-- A context and the supply its identifiers come from. -/
structure Desk where
  context : Context
  supply : UuidSupply

/-- A computation that draws identifiers and may fail; those drawn before a failure stay drawn. -/
abbrev Drawing (ε α : Type) := ExceptT ε (StateM Desk) α

namespace Desk

/-- The value of a placeholder of this name. An identifier is drawn and noted. -/
def value (name : PlaceholderName) : StateM Desk Value := do
  let desk ← get
  match name with
  | .uuid =>
    let (id, supply) := desk.supply.draw
    set ({ context := desk.context.note id, supply } : Desk)
    return .uuid id
  | .count => return .count desk.context.index
  | .timestamp => return .timestamp desk.context.instant

/-- The text of one occurrence of a placeholder under a directive. -/
def renderWith (name : PlaceholderName) (directive : Directive) : StateM Desk String := do
  return directive.apply (← value name)

/-- The text of one occurrence of a placeholder. Its format is judged before anything is drawn. -/
def render (name : PlaceholderName) (format : Option String) : Drawing FormatError String :=
  match Directive.classify name format with
  | .error e => throw e
  | .ok directive => liftM (renderWith name directive)

end Desk

end Courier.Template
