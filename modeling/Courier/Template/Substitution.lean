import Courier.Template.Compiled

/-!
# Plain substitution

The message of a template as it would be made without compiling anything beforehand: each text is
split when its turn comes, its literal text is kept, each placeholder is rendered where it stands,
and the first format that its placeholder cannot take stops everything.
-/

namespace Courier.Template

/-- The text that a segment gives. -/
def Segment.render : Segment → Drawing FormatError String
  | .literal text => return text
  | .placeholder p => Desk.render p.name p.format

/-- The text at this place with its placeholders replaced. -/
def substituteText (location : Location) (text : String) : Drawing TemplateError String :=
  match Field.parse text with
  | .error e => throw (.parse location e)
  | .ok field => ExceptT.adapt (.format location) do
    return String.join (← field.segments.mapM Segment.render)

/-- The header at this index with its placeholders replaced. -/
def substituteHeader (index : Nat) (h : Header) : Drawing TemplateError Header := do
  let key ← substituteText (.headerKey index) h.key
  let value ← substituteText (.headerValue index) h.value
  return ⟨key, value⟩

/-- The message for the context at hand: key, value, then each header's key and value. -/
def MessageTemplate.substitute (t : MessageTemplate) : Drawing TemplateError Message := do
  let key ← t.key.mapM (substituteText .key)
  let value ← t.value.mapM (substituteText .value)
  let headers ← t.headers.zipIdx.mapM fun (h, i) => substituteHeader i h
  return { key, value, headers }

end Courier.Template
