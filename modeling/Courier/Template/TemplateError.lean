import Courier.File
import Courier.Template.Directive
import Courier.Template.ParseError

/-!
# Why a template is refused

A fault in a text of a template is reported with the place of that text. A template that comes from
a file can also fail to be read or to be decoded.
-/

namespace Courier.Template

/-- The place of a text in a template. -/
inductive Location where
  | key
  | value
  | headerKey (index : Nat)
  | headerValue (index : Nat)
deriving DecidableEq, Repr

/-- The place in words, headers counted from zero. -/
def Location.text : Location → String
  | .key => "key"
  | .value => "value"
  | .headerKey i => "headers[" ++ String.ofList (Decimal.digits i) ++ "].key"
  | .headerValue i => "headers[" ++ String.ofList (Decimal.digits i) ++ "].value"

/-- The data formats a file can have. -/
inductive DataFormat where
  | yaml
  | json
  | toml
deriving DecidableEq, Repr

/-- The name of a data format. -/
def DataFormat.name : DataFormat → String
  | .yaml => "YAML"
  | .json => "JSON"
  | .toml => "TOML"

/-- Why the content of a file is no template. -/
inductive LoadFault where
  | invalid (format : DataFormat)
  /-- No data format goes with this extension, given in lower case. -/
  | unsupported (extension : String)
deriving DecidableEq, Repr

/-- The wording of a fault. -/
def LoadFault.message : LoadFault → String
  | .invalid format => "Invalid " ++ format.name ++ " template"
  | .unsupported ext =>
    "Unsupported template file extension '" ++ ext ++ "' (expected yaml, yml, json or toml)"

/-- Why a template is refused. -/
inductive TemplateError where
  | parse (location : Location) (cause : ParseError)
  | format (location : Location) (cause : FormatError)
  | unreadable (fault : ReadFault)
  | load (fault : LoadFault)
deriving DecidableEq, Repr

namespace TemplateError

/-- The place of the fault, if it lies in a text of the template. -/
def location? : TemplateError → Option Location
  | .parse location _ => some location
  | .format location _ => some location
  | .unreadable _ => none
  | .load _ => none

/-- The wording of a refusal. -/
def message : TemplateError → String
  | .parse location cause => "Failed to parse " ++ location.text ++ ": " ++ cause.message
  | .format location cause => "Invalid format in " ++ location.text ++ ": " ++ cause.message
  | .unreadable fault => "IO error: " ++ fault.message
  | .load fault => "Template file error: " ++ fault.message

/-- The wordings of the refusal and of what caused it, from the outside in. -/
def chain (e : TemplateError) : List String :=
  match e with
  | .parse _ cause => [e.message, cause.message]
  | .format _ cause => [e.message, cause.message]
  | .unreadable fault => [e.message, fault.message]
  | .load _ => [e.message]

end TemplateError

end Courier.Template
