import Courier.Template.Compiled

/-!
# The faults of a template

All that is wrong with a template, whether or not anything is wrong before it: texts that cannot be
split into segments, and formats that their placeholders cannot take. A template is refused for one
fault only; these are the lists that it heads.
-/

namespace Courier.Template

/-- Why something was refused, if it was. -/
def refusal? {ε α : Type} : Except ε α → Option ε
  | .error e => some e
  | .ok _ => none

/-- What is wrong with the format of a placeholder in the text at this place. -/
def Placeholder.fault? (location : Location) (p : Placeholder) : Option TemplateError :=
  (refusal? (Directive.classify p.name p.format)).map (.format location)

/-- What is wrong with the formats in the text at this place, from left to right. -/
def formatFaults (location : Location) (text : String) : List TemplateError :=
  match Field.parse text with
  | .error _ => []
  | .ok field => field.placeholders.filterMap (Placeholder.fault? location)

namespace MessageTemplate

/-- The texts with their places: key, value, then each header's key and value. -/
def texts (t : MessageTemplate) : List (Location × String) :=
  (t.key.map (Location.key, ·)).toList ++ (t.value.map (Location.value, ·)).toList ++
    t.headers.zipIdx.flatMap fun (h, i) => [(.headerKey i, h.key), (.headerValue i, h.value)]

/-- What is wrong with how single texts are written, in the order of the texts. -/
def parseFaults (t : MessageTemplate) : List TemplateError :=
  t.texts.filterMap fun (location, text) => (refusal? (Field.parse text)).map (.parse location)

/-- What is wrong with formats, in the order of the texts and from left to right in each. -/
def formatFaults (t : MessageTemplate) : List TemplateError :=
  t.texts.flatMap fun (location, text) => Template.formatFaults location text

/-- All that is wrong with a template. A text that cannot be split weighs more than any format. -/
def faults (t : MessageTemplate) : List TemplateError :=
  t.parseFaults ++ t.formatFaults

end MessageTemplate

end Courier.Template
