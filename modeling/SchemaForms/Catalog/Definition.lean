import SchemaForms.Decode
import SchemaForms.Schema.Category

/-!
# Catalog/Definition — blocks as a catalog describes them

A block has a canonical name, which ends with the suffix of its kind by convention.  Its instance in
a document holds the name without the suffix under the tag of the kind, and the label under `alias`.
A catalog that has no answer says why.
-/

namespace SchemaForms

/-- Why a catalog gave no answer. -/
inductive FetchError where
  /-- The request did not get through. -/
  | transport (url detail : String)
  /-- The server refused it. -/
  | status (url : String) (code : Nat)
  /-- The answer was not understood. -/
  | undecodable (url detail : String)
  /-- The catalog does not know the block. -/
  | unknownBlock (name : String)
  /-- The load that was to give the answer was given up. -/
  | abandoned (key : String)
  deriving DecidableEq

/-- The wording of the error. -/
def FetchError.message : FetchError → String
  | .transport url detail => s!"Request to '{url}' failed: {detail}"
  | .status url code => s!"Server responded to '{url}' with HTTP {code}"
  | .undecodable url detail => s!"Could not decode the response from '{url}': {detail}"
  | .unknownBlock name => s!"Block '{name}' is not known to the catalog"
  | .abandoned key => s!"Schema load for '{key}' was abandoned before it completed"

end SchemaForms

namespace SchemaForms.Catalog

/-! ## Names -/

/-- The canonical name of a block of a kind. -/
def blockName (base : String) (category : Category) : String := base ++ category.suffix

/-- The name without the suffix of the kind; a name that has none, or nothing else, stays. -/
def baseName (name : String) (category : Category) : String :=
  let chars := name.toList
  let suffix := category.suffix.toList
  let base := chars.take (chars.length - suffix.length)
  if !base.isEmpty && base ++ suffix = chars then String.ofList base else name

/-- The canonical name of the block that an instance names. -/
def nameFromInstance? (found : Value) (category : Category) : Option String :=
  match (found.member? category.tag).bind Value.asText? with
  | some base => if base.isEmpty then none else some (blockName base category)
  | none => none

/-- The kind that a canonical name ends with; a name without such an ending is an action. -/
def categoryOfName (name : String) : Category :=
  (Category.all.find? fun category =>
    category.suffix.toList.isSuffixOf name.toList &&
      decide (category.suffix.length < name.length)).getD .action

/-! ## Definitions -/

/-- The entry of a block in a catalog. -/
structure Definition where
  name : String
  label : Option String
  description : Option String
  schema : Option Value
  examples : List Value
  deriving DecidableEq

/-- The schema of a block. -/
structure BlockSchema where
  schema : Value
  examples : List Value
  deriving DecidableEq

namespace Definition

/-- A definition that only has a name. -/
def named (name : String) : Definition := ⟨name, none, none, none, []⟩

/-- The label shown to people: the name, if there is no other. -/
def displayLabel (definition : Definition) : String := definition.label.getD definition.name

/-- The smallest instance of the block as one of a kind. -/
def newInstance (definition : Definition) (category : Category) : Value :=
  .obj [(category.tag, .str (baseName definition.name category)),
    ("alias", .str definition.displayLabel)]

/-- The definition as a value. -/
def toValue (definition : Definition) : Value :=
  .obj [("name", .str definition.name), ("label", .textOrNull definition.label),
    ("description", .textOrNull definition.description),
    ("schema", definition.schema.getD .null), ("examples", .arr definition.examples)]

/-- Reads a definition; only the name is required. -/
def decode : Decode.Reader Definition := fun value => do
  let fields ← Decode.record "BlockDefinition"
    [Decode.needed "name" Decode.text, Decode.defaulted "label" (Decode.optional Decode.text),
      Decode.defaulted "description" (Decode.optional Decode.text),
      Decode.defaulted "schema" (Decode.optional Decode.any),
      Decode.defaulted "examples" (Decode.list Decode.any)] value
  .ok {
    name := ← Decode.get fields "name" Decode.text
    label := ← Decode.getD fields "label" (Decode.optional Decode.text) none
    description := ← Decode.getD fields "description" (Decode.optional Decode.text) none
    schema := ← Decode.getD fields "schema" (Decode.optional Decode.any) none
    examples := ← Decode.getD fields "examples" (Decode.list Decode.any) [] }

end Definition

namespace BlockSchema

/-- The schema as a value. -/
def toValue (schema : BlockSchema) : Value :=
  .obj [("schema", schema.schema), ("examples", .arr schema.examples)]

/-- Reads the schema of a block. -/
def decode : Decode.Reader BlockSchema := fun value => do
  let fields ← Decode.record "BlockSchema"
    [Decode.needed "schema" Decode.any, Decode.defaulted "examples" (Decode.list Decode.any)] value
  .ok {
    schema := ← Decode.get fields "schema" Decode.any
    examples := ← Decode.getD fields "examples" (Decode.list Decode.any) [] }

end BlockSchema

end SchemaForms.Catalog
