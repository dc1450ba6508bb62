import Courier.Template.Context
import Courier.Template.Field
import Courier.Template.Message
import Courier.Template.TemplateError

/-!
# Compiled templates

A template is compiled once: its texts are split into segments and the format of each placeholder is
judged. A compiled template can then be checked as a whole, by `validate`, and turned into one
message after the other, by `materialize`.
-/

namespace Courier.Template

/-- The directive that the format of a placeholder stands for, unless the placeholder cannot take
it. -/
def Placeholder.directive (p : Placeholder) : Except FormatError Directive :=
  Directive.classify p.name p.format

/-- A text of a template, split into segments, with the directives of its placeholders in order. -/
structure CompiledText where
  field : Field
  directives : List (Except FormatError Directive)
  /-- There is one directive for each placeholder. -/
  directives_eq : directives = field.placeholders.map Placeholder.directive

namespace CompiledText

/-- Splits the text at this place and judges its formats. -/
def compile (location : Location) (text : String) : Except TemplateError CompiledText :=
  match Field.parse text with
  | .error e => .error (.parse location e)
  | .ok field => .ok ⟨field, field.placeholders.map Placeholder.directive, rfl⟩

/-- Refuses the first format that its placeholder cannot take. -/
def check (t : CompiledText) : Except FormatError Unit :=
  t.directives.forM fun directive => directive.map fun _ => ()

/-- The texts of segments, from left to right, up to the first that cannot be written. Each
placeholder uses up one directive; if there were none left, its format would be judged anew. -/
def renderSegments : List Segment → List (Except FormatError Directive) →
    Drawing FormatError (List String)
  | [], _ => return []
  | .literal text :: rest, directives => return text :: (← renderSegments rest directives)
  | .placeholder p :: rest, .ok directive :: directives => do
    let text ← liftM (Desk.renderWith p.name directive)
    return text :: (← renderSegments rest directives)
  | .placeholder _ :: _, .error e :: _ => throw e
  | .placeholder p :: rest, [] => do
    let text ← Desk.render p.name p.format
    return text :: (← renderSegments rest [])

/-- The text at this place with its placeholders filled in. -/
def materialize (t : CompiledText) (location : Location) : Drawing TemplateError String :=
  ExceptT.adapt (.format location) do
    return String.join (← renderSegments t.field.segments t.directives)

end CompiledText

/-- A text of a template with its place. -/
structure CompiledField extends CompiledText where
  location : Location

/-- A text put at its place. -/
def CompiledText.at (location : Location) (t : CompiledText) : CompiledField :=
  { t with location }

/-- Refuses the first format that its placeholder cannot take. -/
def CompiledField.validate (f : CompiledField) : Except TemplateError Unit :=
  f.check.mapError (.format f.location)

/-- A template whose texts are split and whose formats are judged. -/
structure CompiledTemplate where
  key : Option CompiledText
  value : Option CompiledText
  headers : List (CompiledText × CompiledText)

namespace CompiledTemplate

/-- Compiles headers, the first of them at this index. -/
def compileHeaders (index : Nat) :
    List Header → Except TemplateError (List (CompiledText × CompiledText))
  | [] => .ok []
  | h :: rest => do
    let key ← CompiledText.compile (.headerKey index) h.key
    let value ← CompiledText.compile (.headerValue index) h.value
    return (key, value) :: (← compileHeaders (index + 1) rest)

/-- Compiles a text that may be missing. -/
def compileOptional (location : Location) (text : Option String) :
    Except TemplateError (Option CompiledText) :=
  match text with
  | none => .ok none
  | some s => (CompiledText.compile location s).map some

/-- Compiles a template: key, value, then each header's key and value. -/
def compile (t : MessageTemplate) : Except TemplateError CompiledTemplate := do
  let key ← compileOptional .key t.key
  let value ← compileOptional .value t.value
  let headers ← compileHeaders 0 t.headers
  return { key, value, headers }

theorem compileOptional_of_parse {location : Location} {text : String} {field : Field}
    (parsed : Field.parse text = .ok field) :
    compileOptional location (some text) =
      .ok (some ⟨field, field.placeholders.map Placeholder.directive, rfl⟩) := by
  rw [compileOptional, CompiledText.compile, parsed]
  rfl

/-- The texts in the order of the template, each with its place. -/
def fields (t : CompiledTemplate) : List CompiledField :=
  (t.key.map (CompiledText.at .key)).toList ++ (t.value.map (CompiledText.at .value)).toList ++
    t.headers.zipIdx.flatMap fun ((k, v), i) => [k.at (.headerKey i), v.at (.headerValue i)]

/-- How many placeholders there are in all texts. -/
def placeholderCount (t : CompiledTemplate) : Nat :=
  t.fields.foldr (fun f n => f.field.placeholderCount + n) 0

/-- Refuses the first format, in the order of the template, that its placeholder cannot take. -/
def validate (t : CompiledTemplate) : Except TemplateError Unit :=
  t.fields.forM CompiledField.validate

/-- Fills in the text at this place, which may be missing. -/
def materializeOptional (location : Location) :
    Option CompiledText → Drawing TemplateError (Option String)
  | none => return none
  | some t => return some (← t.materialize location)

/-- Fills in headers one after the other, the first of them at this index. -/
def materializeHeaders (index : Nat) :
    List (CompiledText × CompiledText) → Drawing TemplateError (List Header)
  | [] => return []
  | (k, v) :: rest => do
    let key ← k.materialize (.headerKey index)
    let value ← v.materialize (.headerValue index)
    return ⟨key, value⟩ :: (← materializeHeaders (index + 1) rest)

/-- The message for the context at hand: key, value, then each header's key and value. -/
def materialize (t : CompiledTemplate) : Drawing TemplateError Message := do
  let key ← materializeOptional .key t.key
  let value ← materializeOptional .value t.value
  let headers ← materializeHeaders 0 t.headers
  return { key, value, headers }

/-- Runs `materialize` in a context. -/
def materializeIn (t : CompiledTemplate) (context : Context) (supply : UuidSupply) :
    Except TemplateError Message × Desk :=
  t.materialize.run.run { context, supply }

end CompiledTemplate

end Courier.Template
