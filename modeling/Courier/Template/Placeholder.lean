import Courier.Text.Bytes

/-!
# Placeholders

A placeholder is written `{name}` or `{name:format}`, where the name is one of three and the
format holds no brace. A field is a list of segments: literal text and placeholders. Each
placeholder remembers which bytes of its field it occupies.
-/

namespace Courier.Template

/-- What a placeholder stands for. -/
inductive PlaceholderName where
  | uuid
  | count
  | timestamp
deriving DecidableEq, Repr

/-- The spelling of a name between the braces. -/
def PlaceholderName.text : PlaceholderName → String
  | .uuid => "uuid"
  | .count => "count"
  | .timestamp => "timestamp"

/-- Finds a name by its exact spelling; upper and lower case differ. -/
def PlaceholderName.ofText? (s : String) : Option PlaceholderName :=
  if s = "uuid" then some .uuid
  else if s = "count" then some .count
  else if s = "timestamp" then some .timestamp
  else none

/-- A placeholder as it stands in a field. -/
structure Placeholder where
  /-- What it stands for. -/
  name : PlaceholderName
  /-- The text after the colon; empty for a colon with nothing after it, absent without a colon. -/
  format : Option String
  /-- The byte position of the opening brace. -/
  start : Nat
  /-- The byte position after the closing brace. -/
  stop : Nat
deriving DecidableEq, Repr

/-- The written form of a placeholder with this name and format. -/
def written (name : PlaceholderName) (format : Option String) : List Char :=
  match format with
  | none => '{' :: name.text.toList ++ ['}']
  | some f => '{' :: name.text.toList ++ ':' :: f.toList ++ ['}']

/-- The written form. -/
def Placeholder.print (p : Placeholder) : List Char :=
  written p.name p.format

/-- The placeholder whose opening brace stands at byte position `start`. -/
def Placeholder.at (start : Nat) (name : PlaceholderName) (format : Option String) : Placeholder :=
  ⟨name, format, start, start + Text.byteLength (written name format)⟩

/-- A maximal piece of a field: text that stands for itself, or a placeholder. -/
inductive Segment where
  | literal (text : String)
  | placeholder (p : Placeholder)
deriving DecidableEq, Repr

/-- The written form of a segment. -/
def Segment.print : Segment → List Char
  | .literal text => text.toList
  | .placeholder p => p.print

/-- The placeholder of a segment that is one. -/
def Segment.placeholder? : Segment → Option Placeholder
  | .literal _ => none
  | .placeholder p => some p

/-! ## Laws -/

theorem PlaceholderName.ofText?_text (n : PlaceholderName) : ofText? n.text = some n := by
  cases n <;> rfl

theorem PlaceholderName.ofText?_eq_some {s : String} {n : PlaceholderName} :
    ofText? s = some n ↔ s = n.text := by
  constructor
  · intro h
    unfold ofText? at h
    split at h
    · cases h; assumption
    · split at h
      · cases h; assumption
      · split at h
        · cases h; assumption
        · cases h
  · rintro rfl
    exact ofText?_text n

/-- A placeholder stops where its written form ends. -/
theorem Placeholder.stop_eq {p : Placeholder} {pos : Nat}
    (placed : p = Placeholder.at pos p.name p.format) :
    p.stop = pos + Text.byteLength p.print := by
  rw [placed]
  rfl

end Courier.Template
