import Courier.File
import Courier.Json.Record
import Courier.Record.Decode
import Courier.Template.TemplateError
import Courier.Toml.Record
import Courier.Yaml.Record

/-!
# Templates from files

The extension of a file says in which data format its template is written. A file that cannot be
read is refused before its extension matters.
-/

namespace Courier.Template

/-- The data format that goes with an extension in lower case. -/
def DataFormat.ofExtension? : String → Option DataFormat
  | "yaml" => some .yaml
  | "yml" => some .yaml
  | "json" => some .json
  | "toml" => some .toml
  | _ => none

namespace MessageTemplate

/-- Reads a template from a text in a data format. -/
def read? (format : DataFormat) (content : String) : Option MessageTemplate :=
  match format with
  | .yaml => Yaml.decode? Record.template content
  | .json => (Json.read? content).bind Record.template
  | .toml => (Toml.read? content).bind Record.template

/-- Decodes a template in a data format. -/
def decode (format : DataFormat) (content : String) : Except TemplateError MessageTemplate :=
  match read? format content with
  | some template => .ok template
  | none => .error (.load (.invalid format))

/-- Loads a template from a file. -/
def load (files : Files) (name : String) : Except TemplateError MessageTemplate :=
  match files name with
  | .error fault => .error (.unreadable fault)
  | .ok content =>
    let ext := (FileName.lowerExtension? name).getD ""
    match DataFormat.ofExtension? ext with
    | some format => decode format content
    | none => .error (.load (.unsupported ext))

end MessageTemplate

end Courier.Template
