/-!
# Messages and their templates

A template has the shape of a message, with placeholders in its texts. A missing key or value is
not the same as an empty one, and headers keep their order.
-/

namespace Courier.Template

/-- A header of a message or of a template. -/
structure Header where
  key : String
  value : String
deriving DecidableEq, Repr

/-- A message ready for transport. -/
structure Message where
  key : Option String
  value : Option String
  headers : List Header
deriving DecidableEq, Repr

/-- A message whose texts may hold placeholders. -/
structure MessageTemplate where
  key : Option String := none
  value : Option String := none
  headers : List Header := []
deriving DecidableEq, Repr

namespace MessageTemplate

/-- A template with a value and nothing else. -/
def ofValue (value : String) : MessageTemplate :=
  { value := some value }

/-- The template with this key instead of its own. -/
def withKey (t : MessageTemplate) (key : String) : MessageTemplate :=
  { t with key := some key }

/-- The template with one more header at the end. -/
def addHeader (t : MessageTemplate) (key value : String) : MessageTemplate :=
  { t with headers := t.headers ++ [⟨key, value⟩] }

end MessageTemplate

/-- A message taken as a template. -/
def Message.toTemplate (m : Message) : MessageTemplate :=
  { key := m.key, value := m.value, headers := m.headers }

end Courier.Template
