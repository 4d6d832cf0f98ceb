import SchemaForms.Json.Reader
import SchemaForms.Json.Writer
import SchemaForms.Yaml.Reader
import SchemaForms.Yaml.Writer

/-!
# Format — the two text forms of a document

A value can be written as JSON or as YAML, always; a text can be read back in either form, or is
refused with the reason.
-/

namespace SchemaForms

/-- A text form of documents. -/
inductive Format where
  | json
  | yaml
  deriving DecidableEq

/-- Why a text is no document. -/
inductive ParseError where
  | json (detail : String)
  | yaml (detail : String)
  deriving DecidableEq

/-- The wording of a parse error. -/
def ParseError.message : ParseError → String
  | .json detail => s!"Invalid JSON: {detail}"
  | .yaml detail => s!"Invalid YAML: {detail}"

namespace Format

/-- The name of a form. -/
def name : Format → String
  | .json => "json"
  | .yaml => "yaml"

/-- The name of a form as it appears in requests. -/
def tag : Format → String
  | .json => "JSON"
  | .yaml => "YAML"

/-- Writes a value. -/
def write : Format → Value → String
  | .json, value => Json.pretty value
  | .yaml, value => Yaml.write value

/-- Reads a text. -/
def read : Format → String → Except ParseError Value
  | .json, text => (Json.parse text).mapError .json
  | .yaml, text => (Yaml.parse text).mapError .yaml

end Format

end SchemaForms
