import SchemaForms.Json.Writer
import SchemaForms.Schema.Category
import SchemaForms.Schema.Reference
import SchemaForms.Text.Basic
import SchemaForms.Value.Basic

/-!
# Schema/Description — what a schema fragment describes

A fragment whose references are followed already is classified once: a scalar, a sequence, an
object, a block, or nothing that can be edited by fields.  A missing `type` is inferred from the
keywords present.

An object inside another is edited by a module of its own, whose schema is also the root in which the
references below it are looked up.  So that schema carries the definitions of the outer root along.
-/

/-! ## The types of scalar fields -/

namespace SchemaForms

/-- The types of scalar fields. -/
inductive Primitive where
  | string
  | number
  | integer
  | boolean
  deriving DecidableEq

namespace Primitive

/-- All types. -/
def all : List Primitive := [.string, .number, .integer, .boolean]

/-- The name of a type in a schema. -/
def tag : Primitive → String
  | .string => "string"
  | .number => "number"
  | .integer => "integer"
  | .boolean => "boolean"

/-- The value that a new field of the type starts with. -/
def default : Primitive → Value
  | .string => .str ""
  | .number | .integer => .num (.int 0)
  | .boolean => .bool false

/-- The type with exactly this name. -/
def ofTag? (text : String) : Option Primitive := all.find? fun kind => kind.tag = text

/-- The type with this name, up to the case of ASCII letters. -/
def ofText? (text : String) : Option Primitive := ofTag? (Text.asciiLower text)

/-- The complaint about a text that names no type. -/
def unknownMessage (text : String) : String := s!"unknown primitive type '{text}'"

end Primitive

end SchemaForms

namespace SchemaForms.Schema

/-! ## Fragments -/

/-- The keyword that marks a fragment as the place of a block. -/
def blockKeyword : String := "x-block-type"

/-- How an object treats keys that it does not declare. -/
inductive Additional where
  | forbidden
  | any
  | typed (schema : Value)
  deriving DecidableEq

/-- The declared keys of an object and its treatment of others. -/
structure ObjectShape where
  properties : List (String × Value)
  additional : Additional
  deriving DecidableEq

/-- What a fragment describes. -/
inductive Node where
  | primitive (kind : Primitive) (options : Option (List String))
  | array (items : Option Value)
  | object (shape : ObjectShape)
  | block (category : Category)
  | unresolved
  deriving DecidableEq

/-- The type that the keywords of a fragment imply. -/
def impliedType (schema : List (String × Value)) : Option String :=
  if Table.contains schema "properties" || Table.contains schema "additionalProperties" ||
      Table.contains schema blockKeyword then some "object"
  else if Table.contains schema "items" then some "array"
  else if Table.contains schema "enum" then some "string"
  else none

/-- The type of a fragment: the declared one, of a union the first that is not null, or the
implied one. -/
def typeOf (schema : List (String × Value)) : Option String :=
  match Table.get? schema "type" with
  | some (.str tag) => some tag
  | some (.arr tags) =>
    match (tags.filterMap Value.asText?).find? (· != "null") with
    | some tag => some tag
    | none => impliedType schema
  | _ => impliedType schema

/-- The kind of block that a fragment asks for. -/
def categoryOf (schema : List (String × Value)) : Option Category :=
  ((Table.get? schema blockKeyword).bind Value.asText?).bind Category.ofTag?

/-- The text of an option: strings stand for themselves, other values for their JSON text. -/
def optionText : Value → String
  | .str s => s
  | other => Json.compact other

/-- The options of a fragment. -/
def optionsOf (schema : List (String × Value)) : Option (List String) :=
  ((Table.get? schema "enum").bind Value.asItems?).map (·.map optionText)

/-- The treatment of undeclared keys. -/
def additionalOf (schema : List (String × Value)) : Additional :=
  match Table.get? schema "additionalProperties" with
  | none | some (.bool false) | some .null => .forbidden
  | some (.bool true) | some (.obj []) => .any
  | some other => .typed other

/-- The declared keys. -/
def propertiesOf (schema : List (String × Value)) : List (String × Value) :=
  ((Table.get? schema "properties").bind Value.asMembers?).getD []

/-- What an object with these keywords describes. -/
def Node.ofKeywords (schema : List (String × Value)) : Node :=
  match typeOf schema with
  | some "array" => .array (Table.get? schema "items")
  | some "object" =>
    match categoryOf schema with
    | some category => .block category
    | none => .object ⟨propertiesOf schema, additionalOf schema⟩
  | some tag =>
    match Primitive.ofTag? tag with
    | some kind => .primitive kind (optionsOf schema)
    | none => .unresolved
  | none => .unresolved

/-- What a fragment describes; a reference that led nowhere describes nothing. -/
def Node.classify : Option Value → Node
  | some (.obj schema) => .ofKeywords schema
  | _ => .unresolved

/-- A fragment that describes an existing value. -/
def infer (value : Value) : Value :=
  let tag := match value with
    | .bool _ => "boolean"
    | .num (.int _) => "integer"
    | .num (.float _) => "number"
    | .obj _ => "object"
    | .arr _ => "array"
    | .str _ | .null => "string"
  .obj [("type", .str tag)]

/-- The fragment of a scalar type. -/
def ofPrimitive (kind : Primitive) : Value := .obj [("type", .str kind.tag)]

/-- The fragment of an object that takes any keys. -/
def freeForm : Value := .obj [("additionalProperties", .emptyObject)]

/-- The keywords of `base` with those of `overlay` on top; what is no object has no keywords. -/
def merge (base overlay : Value) : Value :=
  .obj ((overlay.asMembers?.getD []).foldl (fun merged entry => Table.insert merged entry.1 entry.2)
    (base.asMembers?.getD []))

/-! ## Objects inside objects -/

/-- The keywords under which a root keeps its named fragments. -/
def definitionKeywords : List String := ["definitions", "$defs"]

/-- The named fragments of a root. -/
def definitionsOf (root : Value) : List (String × Value) :=
  definitionKeywords.filterMap fun keyword => (root.member? keyword).map fun named => (keyword, named)

/-- What an object without declared keys says about its members, references followed. -/
def memberSchema (maxDepth : Nat) (additional : Additional) (root : Value) : Value :=
  match additional with
  | .typed schema =>
    match resolve maxDepth schema root with
    | .ok (some resolved) => resolved
    | _ => schema
  | .forbidden | .any => .emptyObject

/-- The schema of an object without declared keys. -/
def freeFormWithin (maxDepth : Nat) (additional : Additional) (root : Value) : Value :=
  .obj (definitionsOf root ++ [("additionalProperties", memberSchema maxDepth additional root)])

/-- The schema of an object of shape `shape` that the fragment `resolved` describes inside `root`. -/
def nested (maxDepth : Nat) (shape : ObjectShape) (resolved root : Value) : Value :=
  if shape.properties.isEmpty then freeFormWithin maxDepth shape.additional root
  else merge root resolved

/-- A new element of a list of such objects: its declared keys, all null. -/
def template (shape : ObjectShape) : Value :=
  .obj (shape.properties.map fun property => (property.1, .null))

/-! ## Fragments as document values -/

/-- The treatment of undeclared keys as a value. -/
def Additional.describe : Additional → Value
  | .forbidden => .str "forbidden"
  | .any => .str "any"
  | .typed schema => .obj [("typed", .str (Json.compact schema))]

/-- A node as the members of an object. -/
def Node.describe : Node → List (String × Value)
  | .primitive kind options =>
    [("node", .str "primitive"), ("of", .str kind.tag),
      ("enum", (options.map fun options => Value.arr (options.map Value.str)).getD .null)]
  | .array items => [("node", .str "array"), ("items", .textOrNull (items.map Json.compact))]
  | .object shape =>
    [("node", .str "object"), ("properties", .str (Json.compact (.obj shape.properties))),
      ("additional", shape.additional.describe)]
  | .block category => [("node", .str "block"), ("category", .str category.tag)]
  | .unresolved => [("node", .str "unresolved")]

/-- The type and the kind of block that the keywords of a fragment name. -/
def describeKeywords (schema : List (String × Value)) : List (String × Value) :=
  [("type", .textOrNull (typeOf schema)),
    ("block_category", .textOrNull ((categoryOf schema).map Category.tag))]

end SchemaForms.Schema
