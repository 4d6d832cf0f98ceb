import SchemaForms.Decode
import SchemaForms.Schema.Category
import SchemaForms.Text.Basic

/-!
# Backend/UserBlock — blocks that users define

Users can define blocks of every kind but results.  A definition is kept under its name, so it has to
have one.
-/

namespace SchemaForms

/-- The kinds of blocks that users define. -/
inductive UserKind where
  | actions
  | conditions
  | triggers
  | variables
  deriving DecidableEq

namespace UserKind

/-- The segment under which the blocks of a kind are kept. -/
def segment : UserKind → String
  | .actions => "actions"
  | .conditions => "conditions"
  | .triggers => "triggers"
  | .variables => "variables"

/-- The kind of block. -/
def category : UserKind → Category
  | .actions => .action
  | .conditions => .condition
  | .triggers => .trigger
  | .variables => .variable

/-- The kind of user block for a kind of block. -/
def ofCategory? : Category → Option UserKind
  | .action => some .actions
  | .condition => some .conditions
  | .trigger => some .triggers
  | .variable => some .variables
  | .result => none

/-- The complaint about a kind of block that users cannot define. -/
def refusedMessage : String := "result blocks cannot be user defined"

end UserKind

/-- A block defined by a user. -/
structure UserBlock where
  name : String
  description : Option String
  /-- The schema of the block's parameters. -/
  schema : Option Value
  /-- The document that the block stands for. -/
  definition : Option Value
  deriving DecidableEq

namespace UserBlock

/-- The definition as a value. -/
def toValue (block : UserBlock) : Value :=
  .obj [("name", .str block.name), ("description", .textOrNull block.description),
    ("schema", block.schema.getD .null), ("definition", block.definition.getD .null)]

/-- Reads a definition; everything may be missing. -/
def decode : Decode.Reader UserBlock := fun value => do
  let fields ← Decode.record "UserDefinedBlock"
    [Decode.defaulted "name" Decode.text,
      Decode.defaulted "description" (Decode.optional Decode.text),
      Decode.defaulted "schema" (Decode.optional Decode.any),
      Decode.defaulted "definition" (Decode.optional Decode.any)] value
  .ok {
    name := ← Decode.getD fields "name" Decode.text ""
    description := ← Decode.getD fields "description" (Decode.optional Decode.text) none
    schema := ← Decode.getD fields "schema" (Decode.optional Decode.any) none
    definition := ← Decode.getD fields "definition" (Decode.optional Decode.any) none }

/-- The definition, if it has a name that is not blank. -/
def validate (block : UserBlock) : Except ValidationError UserBlock :=
  if (Text.trim block.name.toList).isEmpty then .error (.missingKey "name") else .ok block

end UserBlock

end SchemaForms
